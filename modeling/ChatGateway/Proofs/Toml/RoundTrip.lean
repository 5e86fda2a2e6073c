import Mathlib
import ChatGateway.Settings.Preferences
import ChatGateway.Proofs.Text.Utf8
import ChatGateway.Proofs.Toml.Quotes

/-!
# Preferences read back

A file of keys with texts is read line by line into just these pairs, in order
(`takeStatements_pairLines`).  So preferences that are written are read back as they were
(`Preferences.load_toText`).
-/

set_option autoImplicit false

namespace ChatGateway

namespace Toml

/-- A key that is written without quotes. -/
def IsBareKey (key : String) : Prop :=
  key.toList ≠ [] ∧ ∀ c ∈ key.toList, isKeyChar c = true

/-- No blank in front, none to skip. -/
theorem skipBlank_cons {c : Char} (h : c ≠ ' ' ∧ c ≠ '\t') (cs : List Char) :
    skipBlank (c :: cs) = c :: cs := by
  simp [skipBlank, h]

/-- A bare key is read up to the first character that no key holds. -/
theorem takeKey_append {key : String} (h : IsBareKey key) {c : Char} (hc : isKeyChar c = false)
    (rest : List Char) : takeKey (key.toList ++ c :: rest) = some (key, c :: rest) := by
  obtain ⟨hne, hall⟩ := h
  obtain ⟨x, xs, hkey⟩ := List.exists_cons_of_ne_nil hne
  have hx : isKeyChar x = true := hall x (by simp [hkey])
  have hquote : x ≠ '"' ∧ x ≠ '\'' := by
    constructor <;> · rintro rfl; cases hx
  have htake : (key.toList ++ c :: rest).takeWhile isKeyChar = key.toList := by
    rw [List.takeWhile_append_of_pos hall]
    simp [hc]
  have hdrop : (key.toList ++ c :: rest).dropWhile isKeyChar = c :: rest := by
    rw [List.dropWhile_append_of_pos hall]
    simp [hc]
  have hempty : key.toList.isEmpty = false := by simp [hkey]
  unfold takeKey
  rw [hkey, List.cons_append]
  split
  · simp_all
  · simp_all
  · rw [← List.cons_append, ← hkey, htake, hdrop]
    simp [hempty]

/-- A key, an equals sign and what the value reader makes of the rest. -/
theorem takePair_append {key : String} (h : IsBareKey key) {value : Taker Node} {v : Node}
    {text rest : List Char} (hvalue : value (text ++ rest) = some (v, rest))
    (hblank : skipBlank (text ++ rest) = text ++ rest) :
    takePair value (key.toList ++ ' ' :: '=' :: ' ' :: (text ++ rest)) =
      some (([key], v), skipBlank rest) := by
  obtain ⟨x, xs, hkey⟩ := List.exists_cons_of_ne_nil h.1
  have hx : isKeyChar x = true := h.2 x (by simp [hkey])
  have hskip : skipBlank (key.toList ++ ' ' :: '=' :: ' ' :: (text ++ rest)) =
      key.toList ++ ' ' :: '=' :: ' ' :: (text ++ rest) := by
    rw [hkey, List.cons_append]
    refine skipBlank_cons ⟨?_, ?_⟩ _ <;> · rintro rfl; cases hx
  have hpath : takePath maxDepth (key.toList ++ ' ' :: '=' :: ' ' :: (text ++ rest)) =
      some ([key], '=' :: ' ' :: (text ++ rest)) := by
    show takePath (79 + 1) _ = _
    rw [takePath, hskip, takeKey_append h rfl]
    simp [skipBlank]
  have hafter : skipBlank (' ' :: (text ++ rest)) = text ++ rest := by
    rw [skipBlank, if_pos (.inl rfl), hblank]
  rw [takePair, hpath]
  simp only [hafter, hvalue]

/-- How a quoted text starts. -/
theorem quoted_eq_cons (s : String) :
    ∃ q cs, (quoted s).toList = q :: cs ∧ (q = '"' ∨ q = '\'') := by
  cases h : Quotes.of s.toList <;> simp [quoted, h]

/-- A value that was quoted is read back as its text. -/
theorem takeValue_quoted (depth : Nat) (s : String) {rest : List Char}
    (h : ∀ c ∈ rest.head?, c ≠ '"' ∧ c ≠ '\'') :
    takeValue depth ((quoted s).toList ++ rest) = some (.text s, rest) := by
  have htext := takeText_quoted s h
  obtain ⟨q, cs, hquoted, hq⟩ := quoted_eq_cons s
  rw [hquoted, List.cons_append] at htext ⊢
  rcases hq with rfl | rfl <;> simp [takeValue, htext]

/-- A key with a text is read as a statement up to the end of its line. -/
theorem takeStatement_pairLine {key : String} (h : IsBareKey key) (s : String)
    (rest : List Char) :
    takeStatement ((pairLine (key, .text s)).toList ++ rest) =
      some (.pair [key] (.text s), '\n' :: rest) := by
  have hline : (pairLine (key, .text s)).toList ++ rest =
      key.toList ++ ' ' :: '=' :: ' ' :: ((quoted s).toList ++ '\n' :: rest) := by
    simp [pairLine, Plain.toText]
  have hvalue : takeValue maxDepth ((quoted s).toList ++ '\n' :: rest) =
      some (.text s, '\n' :: rest) := takeValue_quoted maxDepth s (by simp)
  have hblank : skipBlank ((quoted s).toList ++ '\n' :: rest) =
      (quoted s).toList ++ '\n' :: rest := by
    obtain ⟨q, cs, hquoted, hq⟩ := quoted_eq_cons s
    rw [hquoted, List.cons_append]
    exact skipBlank_cons (by rcases hq with rfl | rfl <;> decide) _
  have hpair := takePair_append h hvalue hblank
  obtain ⟨x, xs, hkey⟩ := List.exists_cons_of_ne_nil h.1
  have hx : x ≠ '[' := by
    rintro rfl
    have := h.2 '[' (by simp [hkey])
    cases this
  rw [hline]
  unfold takeStatement
  split
  · simp_all
  · simp_all
  · rw [hpair]
    rfl

/-! ## Files of such lines -/

/-- The lines of some keys with texts. -/
def textLines (pairs : List (String × String)) : String :=
  pairLines (pairs.map fun pair => (pair.1, .text pair.2))

/-- Lines are written one after the other. -/
theorem textLines_cons (pair : String × String) (pairs : List (String × String)) :
    (textLines (pair :: pairs)).toList =
      (pairLine (pair.1, .text pair.2)).toList ++ (textLines pairs).toList := by
  simp [textLines, pairLines]

/-- The line of a pair begins with a character of its key. -/
theorem head_pairLine {key : String} (h : IsBareKey key) (s : String) (rest : List Char) :
    ∃ c cs, (pairLine (key, .text s)).toList ++ rest = c :: cs ∧ isKeyChar c = true := by
  obtain ⟨c, cs, hkey⟩ := List.exists_cons_of_ne_nil h.1
  exact ⟨c, cs ++ (" = " ++ quoted s ++ "\n").toList ++ rest,
    by simp [pairLine, Plain.toText, hkey], h.2 c (by simp [hkey])⟩

/-- Nothing is skipped before a key. -/
theorem skipLines_of_isKeyChar {c : Char} (h : isKeyChar c = true) (fuel : Nat)
    (cs : List Char) : skipLines (fuel + 1) (c :: cs) = some (c :: cs) := by
  have hblank : c ≠ ' ' ∧ c ≠ '\t' := by constructor <;> · rintro rfl; cases h
  have hcomment : skipComment (c :: cs) = some (c :: cs) := by
    unfold skipComment
    split
    · simp_all
      cases h
    · rfl
  have hline : takeNewline (c :: cs) = none := by
    unfold takeNewline
    split
    · simp_all
      cases h
    · simp_all
      cases h
    · rfl
  rw [skipLines, skipBlank_cons hblank, hcomment]
  simp only [hline]

/-- The statements of a file of lines are its pairs. -/
theorem takeStatements_textLines (pairs : List (String × String)) :
    ∀ fuel, pairs.length < fuel → (∀ pair ∈ pairs, IsBareKey pair.1) →
      takeStatements fuel (textLines pairs).toList =
        some (pairs.map fun pair => .pair [pair.1] (.text pair.2)) := by
  induction pairs with
  | nil =>
    intro fuel hfuel _
    obtain ⟨fuel, rfl⟩ := Nat.exists_eq_succ_of_ne_zero (Nat.ne_zero_of_lt hfuel)
    rfl
  | cons pair pairs ih =>
    intro fuel hfuel hkeys
    obtain ⟨fuel, rfl⟩ := Nat.exists_eq_succ_of_ne_zero (Nat.ne_zero_of_lt hfuel)
    obtain ⟨hkey, hrest⟩ := List.forall_mem_cons.1 hkeys
    have hlines := ih fuel (by simpa using hfuel) hrest
    have hstatement := takeStatement_pairLine hkey pair.2 (textLines pairs).toList
    obtain ⟨c, cs, hline, hc⟩ := head_pairLine hkey pair.2 (textLines pairs).toList
    rw [textLines_cons]
    rw [hline] at hstatement ⊢
    rw [takeStatements, skipLines_of_isKeyChar hc]
    simp [hstatement, skipBlank, skipComment, takeNewline, hlines]

/-- A file of keys with texts is the tree that carrying out just these pairs gives. -/
theorem parse?_textLines {pairs : List (String × String)}
    (h : ∀ pair ∈ pairs, IsBareKey pair.1) :
    parse? (textLines pairs).toList =
      ((pairs.map fun pair => Statement.pair [pair.1] (.text pair.2)).foldlM Draft.apply {}).map
        Draft.members := by
  have hlength : pairs.length ≤ (textLines pairs).toList.length := by
    clear h
    induction pairs with
    | nil => exact Nat.zero_le _
    | cons pair pairs ih =>
      rw [textLines_cons, List.length_append, List.length_cons]
      have hline : 0 < (pairLine (pair.1, .text pair.2)).toList.length := by
        simp [pairLine]
      omega
  have hstatements := takeStatements_textLines pairs ((textLines pairs).toList.length + 1)
    (by omega) h
  have hmark : ∀ rest, (textLines pairs).toList ≠ '\ufeff' :: rest := by
    intro rest heq
    cases pairs with
    | nil => cases heq
    | cons pair pairs =>
      obtain ⟨c, cs, hline, hc⟩ :=
        head_pairLine (h pair List.mem_cons_self) pair.2 (textLines pairs).toList
      rw [textLines_cons, hline, List.cons.injEq] at heq
      rw [heq.1] at hc
      cases hc
  unfold parse?
  split
  · exact absurd ‹_› (hmark _)
  · simp only [hstatements]

end Toml

namespace Preferences

/-- What is remembered, under its keys. -/
def textPairs (p : Preferences) : List (String × String) :=
  (p.thread.map fun s => ("last_thread_id", s)).toList ++
    (p.model.map fun s => ("selected_model", s)).toList

/-- Preferences are written as lines, one for each text that they hold. -/
theorem toText_eq (p : Preferences) : p.toText = Toml.textLines p.textPairs := by
  obtain ⟨thread, model⟩ := p
  cases thread <;> cases model <;> rfl

/-- The thread's key needs no quotes. -/
theorem isBareKey_thread : Toml.IsBareKey "last_thread_id" := ⟨by simp, by simp [Toml.isKeyChar]⟩

/-- The model's key needs no quotes. -/
theorem isBareKey_model : Toml.IsBareKey "selected_model" := ⟨by simp, by simp [Toml.isKeyChar]⟩

/-- Every key of the file needs no quotes. -/
theorem isBareKey_of_mem {p : Preferences} : ∀ pair ∈ p.textPairs, Toml.IsBareKey pair.1 := by
  intro pair hpair
  rcases List.mem_append.1 hpair with hpair | hpair
  · obtain ⟨s, -, rfl⟩ := Option.map_eq_some_iff.1 (Option.mem_toList.1 hpair)
    exact isBareKey_thread
  · obtain ⟨s, -, rfl⟩ := Option.map_eq_some_iff.1 (Option.mem_toList.1 hpair)
    exact isBareKey_model

/-- The tree of some preferences holds these preferences. -/
theorem ofMembers_textPairs (p : Preferences) :
    (((p.textPairs.map fun pair => Toml.Statement.pair [pair.1] (.text pair.2)).foldlM
      Toml.Draft.apply {}).map Toml.Draft.members).bind ofMembers = some p := by
  obtain ⟨thread, model⟩ := p
  cases thread <;> cases model <;>
    simp [textPairs, Toml.Draft.apply, Toml.splitPath, Toml.Members.changeAt,
      Toml.Members.addPair, Toml.Members.find?, ofMembers, Toml.Members.optional,
      Toml.Node.text?]

/-- Preferences that are written are read back. -/
theorem load_toText (p : Preferences) :
    load (.bytes (Text.Utf8.encode p.toText.toList)) = .ok p := by
  have hparse := Toml.parse?_textLines (isBareKey_of_mem (p := p))
  have htext : File.text (.bytes (Text.Utf8.encode p.toText.toList)) =
      .ok (some p.toText.toList) := by
    simp [File.text, Text.Utf8.decode?_encode]
  have hdecoded : (Toml.parse? p.toText.toList).bind ofMembers = some p := by
    rw [toText_eq, hparse]
    exact ofMembers_textPairs p
  rw [load, File.load, htext]
  simp only [hdecoded]

end Preferences

end ChatGateway
