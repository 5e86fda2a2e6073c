import Mathlib
import ChatGateway.Text.Blank

/-!
# Words and the spaces between them

Trimming keeps every character that is not blank; what it leaves has no blanks at either end
and stood between blanks (`exists_trimChars`).  Collapsing keeps the words of a text and puts
single spaces between them (`isSpaced_collapse`); nothing is left exactly of a text without a
word (`collapse_eq_empty_iff`).
-/

set_option autoImplicit false

namespace ChatGateway.Text

/-! ## Trimming -/

/-- Trimming the start keeps what is no blank. -/
theorem mem_trimStartChars {c : Char} (h : isBlank c = false) {cs : List Char} (hc : c ∈ cs) :
    c ∈ trimStartChars cs := by
  rw [← List.takeWhile_append_dropWhile (p := isBlank) (l := cs), List.mem_append] at hc
  obtain hc | hc := hc
  · rw [List.mem_takeWhile_imp hc] at h
    cases h
  · exact hc

/-- Trimming keeps what is no blank. -/
theorem mem_trimChars {c : Char} (h : isBlank c = false) {cs : List Char} (hc : c ∈ cs) :
    c ∈ trimChars cs := by
  have hstart : c ∈ (trimStartChars cs).reverse := List.mem_reverse.2 (mem_trimStartChars h hc)
  exact List.mem_reverse.2 (mem_trimStartChars h hstart)

/-- A text that begins with no blank loses nothing at its start. -/
theorem trimStartChars_cons {c : Char} (h : isBlank c = false) (cs : List Char) :
    trimStartChars (c :: cs) = c :: cs := by
  simp [trimStartChars, h]

/-- A first character that is no blank stands before whatever trimming leaves. -/
theorem trimEndChars_cons {c : Char} (h : isBlank c = false) (cs : List Char) :
    trimEndChars (c :: cs) = c :: trimEndChars cs := by
  rw [trimEndChars, trimEndChars, List.reverse_cons, List.dropWhile_append]
  split
  · rename_i hempty
    simp [h, List.isEmpty_iff.1 hempty]
  · simp

/-- A text that ends with no blank loses nothing at its end. -/
theorem trimEndChars_concat {c : Char} (h : isBlank c = false) (cs : List Char) :
    trimEndChars (cs ++ [c]) = cs ++ [c] := by
  simp [trimEndChars, h]

/-- A blank at the end goes. -/
theorem trimEndChars_concat_blank {c : Char} (h : isBlank c = true) (cs : List Char) :
    trimEndChars (cs ++ [c]) = trimEndChars cs := by
  simp [trimEndChars, h]

/-- A blank at the end is trimmed with the others. -/
theorem trimChars_concat_blank {c : Char} (h : isBlank c = true) (cs : List Char) :
    trimChars (cs ++ [c]) = trimChars cs := by
  rw [trimChars, trimChars, trimStartChars, trimStartChars, List.dropWhile_append]
  split
  · rename_i hempty
    simp [List.isEmpty_iff.1 hempty, h, trimEndChars]
  · rw [trimEndChars_concat_blank h]

/-- A text without blanks at either end. -/
structure IsTrimmed (cs : List Char) : Prop where
  start : ∀ c ∈ cs.head?, isBlank c = false
  stop : ∀ c ∈ cs.getLast?, isBlank c = false

/-- Blanks at the end are trimmed. -/
theorem trimChars_append_blanks (cs : List Char) {blanks : List Char}
    (h : ∀ c ∈ blanks, isBlank c = true) : trimChars (cs ++ blanks) = trimChars cs := by
  induction blanks using List.reverseRecOn with
  | nil => rw [List.append_nil]
  | append_singleton blanks c ih =>
    obtain ⟨hblanks, hc⟩ := List.forall_mem_append.1 h
    rw [← List.append_assoc, trimChars_concat_blank (hc c List.mem_cons_self), ih hblanks]

/-- Blanks in front do not matter to trimming. -/
theorem trimChars_blanks_append (cs : List Char) {blanks : List Char}
    (h : ∀ c ∈ blanks, isBlank c = true) : trimChars (blanks ++ cs) = trimChars cs := by
  rw [trimChars, trimChars, trimStartChars, List.dropWhile_append_of_pos h]
  rfl

/-- A trimmed text is left as it is. -/
theorem IsTrimmed.trimChars_eq {cs : List Char} (h : IsTrimmed cs) : trimChars cs = cs := by
  cases cs using List.reverseRecOn with
  | nil => rfl
  | append_singleton cs d =>
    have hstop : isBlank d = false := h.stop d (by simp)
    have hstart : trimStartChars (cs ++ [d]) = cs ++ [d] := by
      cases cs with
      | nil => exact trimStartChars_cons hstop []
      | cons c cs => exact trimStartChars_cons (h.start c rfl) _
    rw [trimChars, hstart, trimEndChars_concat hstop]

/-- What trimming takes from the end are the blanks there. -/
theorem trimEndChars_append (cs : List Char) :
    cs = trimEndChars cs ++ (cs.reverse.takeWhile isBlank).reverse := by
  rw [trimEndChars, ← List.reverse_append, List.takeWhile_append_dropWhile, List.reverse_reverse]

/-- A text is what trimming leaves of it, between blanks. -/
theorem exists_trimChars (cs : List Char) :
    ∃ before after, cs = before ++ (trimChars cs ++ after) ∧
      (∀ c ∈ before, isBlank c = true) ∧ ∀ c ∈ after, isBlank c = true := by
  refine ⟨cs.takeWhile isBlank, ((trimStartChars cs).reverse.takeWhile isBlank).reverse, ?_,
    fun c hc => List.mem_takeWhile_imp hc,
    fun c hc => List.mem_takeWhile_imp (List.mem_reverse.1 hc)⟩
  rw [trimChars, ← trimEndChars_append, trimStartChars, List.takeWhile_append_dropWhile]

/-- Trimming makes a text trimmed. -/
theorem isTrimmed_trimChars (cs : List Char) : IsTrimmed (trimChars cs) := by
  refine ⟨fun c hc => ?_, fun c hc => ?_⟩
  · -- what trimming at the end leaves begins as it did before
    have hstart := List.head?_dropWhile_not isBlank cs
    have hhead : (trimStartChars cs).head? = some c := by
      rw [trimEndChars_append (trimStartChars cs), List.head?_append_of_ne_nil]
      · exact hc
      · rintro hnil
        rw [trimChars, hnil] at hc
        cases hc
    rw [trimStartChars] at hhead
    rw [hhead] at hstart
    simpa using hstart
  · have hstop := List.head?_dropWhile_not isBlank (trimStartChars cs).reverse
    rw [trimChars, trimEndChars, List.getLast?_reverse] at hc
    rw [hc] at hstop
    simpa using hstop

/-- Trimming adds no character. -/
theorem mem_of_mem_trimChars {c : Char} {cs : List Char} (hc : c ∈ trimChars cs) : c ∈ cs := by
  obtain ⟨before, after, hcs, -, -⟩ := exists_trimChars cs
  rw [hcs]
  exact List.mem_append_right _ (List.mem_append_left _ hc)

/-- Trimming makes no text longer. -/
theorem length_trimChars_le (cs : List Char) : (trimChars cs).length ≤ cs.length := by
  obtain ⟨before, after, hcs, -, -⟩ := exists_trimChars cs
  nth_rewrite 2 [hcs]
  simp only [List.length_append]
  omega

/-- Trimming a text between blanks gives it back if it is trimmed. -/
theorem IsTrimmed.trimChars_between {before cs after : List Char} (h : IsTrimmed cs)
    (hbefore : ∀ c ∈ before, isBlank c = true) (hafter : ∀ c ∈ after, isBlank c = true) :
    trimChars (before ++ (cs ++ after)) = cs := by
  rw [trimChars_blanks_append _ hbefore, trimChars_append_blanks _ hafter, h.trimChars_eq]

/-- A trimmed text is blank only if it is empty. -/
theorem isBlankText_trim_iff (s : String) : isBlankText (trim s) = true ↔ trim s = "" := by
  refine ⟨fun hblank => ?_, fun hempty => by rw [hempty]; rfl⟩
  have hkept : ∀ c ∈ s.toList, isBlank c = true := by
    intro c hc
    by_contra hword
    have hmem : c ∈ (trim s).toList := by
      rw [trim, String.toList_ofList]
      exact mem_trimChars (by simpa using hword) hc
    exact hword (List.all_eq_true.1 hblank c hmem)
  rw [trim, (trimChars_eq_nil_iff _).2 hkept]

/-! ## Words and spaces -/

/-- A text without blanks but for single spaces between words. -/
structure IsSpaced (cs : List Char) : Prop where
  start : ∀ c ∈ cs.head?, isBlank c = false
  stop : ∀ c ∈ cs.getLast?, isBlank c = false
  space : ∀ c ∈ cs, isBlank c = true → c = ' '
  single : cs.IsChain fun c d => isBlank c = true → isBlank d = false

/-- A line: words with single spaces between them. -/
structure IsLine (s : String) : Prop extends IsSpaced s.toList where
  nonempty : s ≠ ""

/-- A run of characters none of which is blank. -/
def IsWord (cs : List Char) : Prop :=
  cs ≠ [] ∧ ∀ c ∈ cs, isBlank c = false

/-- A word has no blank at either end and none within. -/
theorem IsWord.isSpaced {w : List Char} (word : IsWord w) : IsSpaced w where
  start c hc := word.2 c (List.mem_of_mem_head? hc)
  stop c hc := word.2 c (List.mem_of_mem_getLast? hc)
  space c hc hblank := absurd hblank (by simp [word.2 c hc])
  single := by
    have hpairs : w.Pairwise fun c d => isBlank c = true → isBlank d = false :=
      List.pairwise_of_forall_mem_list fun _ _ d hd _ => word.2 d hd
    exact hpairs.isChain

/-- A word and a space before more words. -/
theorem IsSpaced.cons_word {w cs : List Char} (spaced : IsSpaced cs) (more : cs ≠ [])
    (word : IsWord w) : IsSpaced (w ++ [' '] ++ cs) := by
  obtain ⟨c, rest, rfl⟩ := List.exists_cons_of_ne_nil more
  have hc : isBlank c = false := spaced.start c rfl
  refine ⟨?_, ?_, ?_, ?_⟩
  · intro d hd
    rw [List.append_assoc, List.head?_append_of_ne_nil _ word.1] at hd
    exact word.isSpaced.start d hd
  · intro d hd
    rw [List.getLast?_append_of_ne_nil _ more] at hd
    exact spaced.stop d hd
  · intro d hd hblank
    rcases List.mem_append.1 hd with hd | hd
    · rcases List.mem_append.1 hd with hd | hd
      · exact word.isSpaced.space d hd hblank
      · exact List.mem_singleton.1 hd
    · exact spaced.space d hd hblank
  · -- the last character of the word is not blank, nor is the first one after the space
    have hfront : (w ++ [' ']).IsChain fun c d => isBlank c = true → isBlank d = false := by
      refine List.isChain_append.2 ⟨word.isSpaced.single, List.isChain_singleton _, ?_⟩
      intro d hd _ _ hblank
      rw [word.isSpaced.stop d hd] at hblank
      cases hblank
    refine List.isChain_append.2 ⟨hfront, spaced.single, ?_⟩
    intro _ _ d hd _
    obtain rfl : c = d := Option.some.inj hd
    exact hc

/-- Some words, joined by spaces, are not empty. -/
theorem intercalate_ne_nil {words : List (List Char)} (h : ∀ w ∈ words, IsWord w)
    (some : words ≠ []) : [' '].intercalate words ≠ [] := by
  obtain ⟨w, rest, rfl⟩ := List.exists_cons_of_ne_nil some
  have hw : w ≠ [] := (h w List.mem_cons_self).1
  cases rest with
  | nil => simpa using hw
  | cons w' rest => simp [List.intercalate_cons_cons]

/-- Words joined by single spaces are spaced. -/
theorem isSpaced_intercalate {words : List (List Char)} (h : ∀ w ∈ words, IsWord w) :
    IsSpaced ([' '].intercalate words) := by
  induction words with
  | nil => exact ⟨by simp, by simp, by simp, .nil⟩
  | cons w rest ih =>
    obtain ⟨hw, hrest⟩ := List.forall_mem_cons.1 h
    cases rest with
    | nil => simpa using hw.isSpaced
    | cons w' rest =>
      rw [List.intercalate_cons_cons]
      exact (ih hrest).cons_word (intercalate_ne_nil hrest (by simp)) hw

/-- A run of characters that is not empty and holds no blank is a word, read either way. -/
theorem isWord_reverse {run : List Char} (hrun : ∀ c ∈ run, isBlank c = false)
    (some : run.isEmpty = false) : IsWord run.reverse :=
  ⟨by simpa using some, fun c hc => hrun c (List.mem_reverse.1 hc)⟩

/-- What a text is split into are words. -/
theorem isWord_of_mem_wordsFrom {run cs w : List Char} (hrun : ∀ c ∈ run, isBlank c = false)
    (hw : w ∈ wordsFrom run cs) : IsWord w := by
  induction cs generalizing run with
  | nil =>
    cases hempty : run.isEmpty with
    | true => simp [wordsFrom, hempty] at hw
    | false =>
      simp only [wordsFrom, hempty, Bool.false_eq_true, ↓reduceIte, List.mem_singleton] at hw
      exact hw ▸ isWord_reverse hrun hempty
  | cons c cs ih =>
    cases hc : isBlank c with
    | false =>
      simp only [wordsFrom, hc, Bool.false_eq_true, ↓reduceIte] at hw
      exact ih (List.forall_mem_cons.2 ⟨hc, hrun⟩) hw
    | true =>
      cases hempty : run.isEmpty with
      | true =>
        simp only [wordsFrom, hc, hempty, ↓reduceIte] at hw
        exact ih (by simp) hw
      | false =>
        simp only [wordsFrom, hc, hempty, Bool.false_eq_true, ↓reduceIte, List.mem_cons] at hw
        rcases hw with rfl | hw
        · exact isWord_reverse hrun hempty
        · exact ih (by simp) hw

/-- There are no words in a text exactly if it is blank. -/
theorem wordsFrom_eq_nil_iff (run cs : List Char) :
    wordsFrom run cs = [] ↔ run = [] ∧ ∀ c ∈ cs, isBlank c = true := by
  induction cs generalizing run with
  | nil => simp [wordsFrom]
  | cons c cs ih =>
    cases hc : isBlank c with
    | true => cases run <;> simp [wordsFrom, hc, ih]
    | false => simp [wordsFrom, hc, ih]

/-- Collapsing joins the words by single spaces. -/
theorem toList_collapse (s : String) :
    (collapse s).toList = [' '].intercalate (wordsChars s.toList) := by
  simp [collapse, String.toList_intercalate, Function.comp_def]

/-- The words of a text are words. -/
theorem isWord_of_mem_wordsChars {cs w : List Char} (hw : w ∈ wordsChars cs) : IsWord w :=
  isWord_of_mem_wordsFrom (by simp) hw

/-- Collapsing leaves no blanks but single spaces between words. -/
theorem isSpaced_collapse (s : String) : IsSpaced (collapse s).toList := by
  rw [toList_collapse]
  exact isSpaced_intercalate fun _ => isWord_of_mem_wordsChars

/-- Nothing is left of a text that is collapsed exactly if it is blank. -/
theorem collapse_eq_empty_iff (s : String) : collapse s = "" ↔ isBlankText s = true := by
  have hblank : isBlankText s = true ↔ wordsChars s.toList = [] := by
    simp [isBlankText, wordsChars, wordsFrom_eq_nil_iff]
  rw [hblank, ← String.toList_eq_nil_iff, toList_collapse]
  constructor
  · intro h
    by_contra hsome
    exact intercalate_ne_nil (fun _ => isWord_of_mem_wordsChars) hsome h
  · intro h
    rw [h]
    rfl

end ChatGateway.Text
