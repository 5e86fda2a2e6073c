import Mathlib
import ChatGateway.Proofs.Json.Bounds

/-!
# Texts of objects

The first character of a value says what the value is, so a text is read as an object when its
members are read one by one up to the closing brace, and nothing but blanks comes after it.
-/

set_option autoImplicit false

namespace ChatGateway.Json

/-- Which values begin with a quote or a brace. -/
theorem readValue_cases {depth : ℕ} {cs rest : List Char} {v : Json}
    (h : readValue depth cs = .ok (v, rest)) :
    (∃ s rest', v = .str s ∧ skipBlank cs = '"' :: rest' ∧ readText rest' = .ok (s, rest)) ∨
    (∃ ms below rest', v = .obj ms ∧ depth = below + 1 ∧ skipBlank cs = '\x7b' :: rest' ∧
      readMembers (readValue below) (rest'.length + 1) true [] rest' = .ok (ms, rest)) ∨
    ((∀ s, v ≠ .str s) ∧ ∀ ms, v ≠ .obj ms) := by
  rw [readValue] at h
  split at h
  · cases h
  · obtain ⟨x, -, hv⟩ := map_eq_ok h
    cases hv
    simp
  · obtain ⟨x, -, hv⟩ := map_eq_ok h
    cases hv
    simp
  · obtain ⟨x, -, hv⟩ := map_eq_ok h
    cases hv
    simp
  · rename_i rest' hskip
    obtain ⟨x, hx, hv⟩ := map_eq_ok h
    cases hv
    exact .inl ⟨_, rest', rfl, hskip, hx⟩
  · obtain ⟨x, -, hv⟩ := map_eq_ok h
    cases hv
    simp
  · cases depth with
    | zero => cases h
    | succ below =>
      obtain ⟨x, -, hv⟩ := map_eq_ok h
      cases hv
      simp
  · rename_i rest' hskip
    cases depth with
    | zero => cases h
    | succ below =>
      obtain ⟨x, hx, hv⟩ := map_eq_ok h
      cases hv
      exact .inr (.inl ⟨_, below, rest', rfl, rfl, hskip, hx⟩)
  · split at h
    · obtain ⟨x, -, hv⟩ := map_eq_ok h
      cases hv
      simp
    · cases h

/-- A text is read exactly from a text between quotation marks. -/
theorem readValue_eq_str_iff {depth : ℕ} {cs rest : List Char} {s : String} :
    readValue depth cs = .ok (.str s, rest) ↔
      ∃ rest', skipBlank cs = '"' :: rest' ∧ readText rest' = .ok (s, rest) := by
  constructor
  · intro h
    rcases readValue_cases h with ⟨_, rest', ⟨⟩, hread⟩ | ⟨_, _, _, ⟨⟩, _⟩ | ⟨hne, -⟩
    · exact ⟨rest', hread⟩
    · exact absurd rfl (hne s)
  · rintro ⟨rest', hskip, hread⟩
    rw [readValue, hskip]
    simp [hread, Except.map]

/-- An object is read exactly from members between braces. -/
theorem readValue_eq_obj_iff {depth : ℕ} {cs rest : List Char} {ms : List (String × Json)} :
    readValue (depth + 1) cs = .ok (.obj ms, rest) ↔
      ∃ rest', skipBlank cs = '\x7b' :: rest' ∧
        readMembers (readValue depth) (rest'.length + 1) true [] rest' = .ok (ms, rest) := by
  constructor
  · intro h
    rcases readValue_cases h with ⟨_, _, ⟨⟩, _⟩ | ⟨_, _, rest', ⟨⟩, ⟨⟩, hread⟩ | ⟨-, hne⟩
    · exact ⟨rest', hread⟩
    · exact absurd rfl (hne ms)
  · rintro ⟨rest', hskip, hread⟩
    rw [readValue, hskip]
    simp [hread, Except.map]

/-- What has been read stays at the front. -/
theorem prefix_of_readMembers {value : Reader Json} {fuel : ℕ} {first : Bool}
    {done ms : List (String × Json)} {cs rest : List Char}
    (h : readMembers value fuel first done cs = .ok (ms, rest)) : done.reverse <+: ms := by
  induction fuel generalizing first done cs with
  | zero => cases h
  | succ fuel ih =>
    rw [readMembers] at h
    split at h
    · cases h
    · cases h
      exact List.prefix_rfl
    · split at h
      · cases h
      · have := ih h
        rw [List.reverse_cons] at this
        exact (List.prefix_append ..).trans this

/-- A text is an object exactly if it reads as members between braces and nothing more. -/
theorem ofText_eq_obj_iff {text : String} {ms : List (String × Json)} :
    ofText text = .ok (.obj ms) ↔ ∃ rest rest', skipBlank text.toList = '\x7b' :: rest ∧
      readMembers (readValue (maxDepth - 1)) (rest.length + 1) true [] rest = .ok (ms, rest') ∧
      skipBlank rest' = [] := by
  have hdepth : maxDepth = maxDepth - 1 + 1 := rfl
  unfold ofText ofChars readWhole
  constructor
  · intro h
    split at h
    · cases h
    · rename_i hwhole
      cases h
      split at hwhole
      · cases hwhole
      · rename_i rest' hread
        split at hwhole
        · rename_i hend
          cases hwhole
          rw [hdepth, readValue_eq_obj_iff] at hread
          obtain ⟨rest, hskip, hread⟩ := hread
          exact ⟨rest, rest', hskip, hread, hend⟩
        · cases hwhole
  · rintro ⟨rest, rest', hskip, hread, hend⟩
    have hvalue := readValue_eq_obj_iff.2 ⟨rest, hskip, hread⟩
    rw [← hdepth] at hvalue
    simp [hvalue, hend]

/-- A value without doubles that is no deeper than it may be has a text. -/
theorem ofText_toText {v : Json} (fits : Fits maxDepth v) (floatFree : v.isFloatFree = true) :
    ofText v.toText = .ok v := by
  have hread : readValue maxDepth (print v ++ []) = .ok (v, []) :=
    readValue_print fits floatFree rfl
  rw [List.append_nil] at hread
  simp [ofText, ofChars, readWhole, toText, hread, skipBlank]

end ChatGateway.Json
