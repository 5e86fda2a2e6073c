/-!
# Blank characters, trimming and words

A character is blank when it has the Unicode property `White_Space`: twenty-five
characters, among them the next-line control, the no-break space and the
ideographic space, but neither the zero-width space nor the byte order mark.
Trimming, the split of a text into its words and the test for a blank text all go
through this one class.  Each function is first a function on lists of characters,
which is what the statements are about, and then its lift to strings.
-/

set_option autoImplicit false

namespace ChatGateway.Text

/-- The Unicode property `White_Space`. -/
def isBlank (c : Char) : Bool :=
  let n := c.toNat
  (9 ≤ n && n ≤ 13) || n = 0x20 || n = 0x85 || n = 0xA0 || n = 0x1680 ||
  (0x2000 ≤ n && n ≤ 0x200A) || n = 0x2028 || n = 0x2029 || n = 0x202F ||
  n = 0x205F || n = 0x3000

/-- `cs` without its blank characters at the front. -/
def trimStartChars (cs : List Char) : List Char :=
  cs.dropWhile isBlank

/-- `cs` without its blank characters at the back. -/
def trimEndChars (cs : List Char) : List Char :=
  (cs.reverse.dropWhile isBlank).reverse

/-- `cs` without blank characters at either end. -/
def trimChars (cs : List Char) : List Char :=
  trimEndChars (trimStartChars cs)

/-- The maximal runs of characters of `cs` that are not blank, in order.  The first
argument is the run being read, last character first. -/
def wordsFrom : List Char → List Char → List (List Char)
  | run, [] => if run.isEmpty then [] else [run.reverse]
  | run, c :: cs =>
    if isBlank c then
      if run.isEmpty then wordsFrom [] cs else run.reverse :: wordsFrom [] cs
    else wordsFrom (c :: run) cs

/-- The words of `cs`: its maximal runs of characters that are not blank. -/
def wordsChars (cs : List Char) : List (List Char) :=
  wordsFrom [] cs

/-- `s` without blank characters at either end. -/
def trim (s : String) : String :=
  String.ofList (trimChars s.toList)

/-- Whether `s` has no character that is not blank. -/
def isBlankText (s : String) : Bool :=
  s.toList.all isBlank

/-- The words of `s`, joined by single spaces. -/
def collapse (s : String) : String :=
  String.intercalate " " ((wordsChars s.toList).map String.ofList)

/-- `cs` without `p` at its front, if it starts with `p`. -/
def dropPrefix? : List Char → List Char → Option (List Char)
  | [], cs => some cs
  | _ :: _, [] => none
  | p :: ps, c :: cs => if p = c then dropPrefix? ps cs else none

/-- A prefix is dropped exactly when the text is that prefix and what is left. -/
theorem dropPrefix?_eq_some_iff (p cs rest : List Char) :
    dropPrefix? p cs = some rest ↔ cs = p ++ rest := by
  induction p generalizing cs with
  | nil => simp [dropPrefix?]
  | cons a p ih =>
    cases cs with
    | nil => simp [dropPrefix?]
    | cons c cs =>
      by_cases h : a = c
      · subst h
        simp [dropPrefix?, ih]
      · simp [dropPrefix?, h, Ne.symm h]

/-- Trimming leaves nothing exactly when every character is blank. -/
theorem trimChars_eq_nil_iff (cs : List Char) :
    trimChars cs = [] ↔ ∀ c ∈ cs, isBlank c = true := by
  have hdrop : ∀ l : List Char, l.dropWhile isBlank = [] ↔ ∀ c ∈ l, isBlank c = true := by
    intro l
    induction l with
    | nil => simp
    | cons c l ih =>
      by_cases h : isBlank c = true
      · simp [h, ih]
      · simp [h]
  simp only [trimChars, trimEndChars, trimStartChars, List.reverse_eq_nil_iff, hdrop,
    List.mem_reverse]
  constructor
  · intro h
    have hnil : cs.dropWhile isBlank = [] := by
      cases hd : cs.dropWhile isBlank with
      | nil => rfl
      | cons c l =>
        have hc := List.head?_dropWhile_not (p := isBlank) cs
        rw [hd] at hc
        have := h c (by rw [hd]; exact List.mem_cons_self)
        simp [this] at hc
    exact (hdrop cs).1 hnil
  · intro h c hc
    exact h c (List.dropWhile_sublist _ |>.subset hc)

example : collapse " a \n\t b\u3000c " = "a b c" := by cbv
example : trim "\u0085 x\u200b\u3000" = "x\u200b" := by cbv
example : isBlankText "\u200b" = false := by cbv

end ChatGateway.Text
