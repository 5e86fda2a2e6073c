import Mathlib
import ChatGateway.Proofs.Json.RoundTrip

/-!
# What a reader gives

A value that was read fits the depth it was read with and holds integers of 64 bits only.
Making the members of its objects distinct changes neither, and is done once for all.
-/

set_option autoImplicit false

namespace ChatGateway.Json

/-! ## Results -/

section results

variable {ε α β : Type}

/-- A result is there after a map exactly if it was before. -/
theorem map_eq_ok_iff {r : Except ε α} {f : α → β} {y : β} :
    r.map f = .ok y ↔ ∃ x, r = .ok x ∧ f x = y := by
  cases r <;> simp [Except.map]

/-- A result is there after two steps exactly if each gives one. -/
theorem bind_eq_ok_iff {r : Except ε α} {f : α → Except ε β} {y : β} :
    r.bind f = .ok y ↔ ∃ x, r = .ok x ∧ f x = .ok y := by
  cases r <;> simp [Except.bind]

/-- A mapped result comes of a result. -/
theorem map_eq_ok {r : Except ε α} {f : α → β} {y : β} (h : r.map f = .ok y) :
    ∃ x, r = .ok x ∧ f x = y := by
  cases r with
  | error e => cases h
  | ok x => exact ⟨x, rfl, Except.ok.inj h⟩

/-- A result of two steps comes of a result of the first. -/
theorem bind_eq_ok {r : Except ε α} {f : α → Except ε β} {y : β} (h : r.bind f = .ok y) :
    ∃ x, r = .ok x ∧ f x = .ok y := by
  cases r with
  | error e => cases h
  | ok x => exact ⟨x, rfl, h⟩

/-- Errors that are said in other words are errors still. -/
theorem mapError_eq_ok {r : Except ε α} {f : ε → ε} {x : α} (h : r.mapError f = .ok x) :
    r = .ok x := by
  cases r with
  | error e => cases h
  | ok y => exact h

end results

/-! ## Numbers -/

/-- Digits that are read never give more than a word holds. -/
theorem takeDigits_le {n : Nat} (h : n ≤ wordMax) (count : Nat) (cs : List Char) :
    (takeDigits n count cs).1 ≤ wordMax := by
  induction cs generalizing n count with
  | nil => exact h
  | cons c cs ih =>
    by_cases hc : isDigit c = true
    · by_cases hm : n * 10 + digitValue c ≤ wordMax
      · simpa [takeDigits, hc, hm] using ih hm (count + 1)
      · simpa [takeDigits, hc, hm] using h
    · simpa [takeDigits, hc] using h

section fits

variable {positive : Bool} {n : Number} {cs rest : List Char}

/-- A number that is put together from its parts fits. -/
theorem floatOfParts_fits {significand : Nat} {exponent : Int}
    (h : floatOfParts positive significand exponent cs = .ok (n, rest)) : n.Fits := by
  unfold floatOfParts at h
  split at h
  · cases h
  · cases h
    trivial

/-- A number with the digits of an exponent fits. -/
theorem readDigits_fits {significand exponent : Nat} {start : Int} {up : Bool}
    (h : readExponent.readDigits positive significand start up exponent cs = .ok (n, rest)) :
    n.Fits := by
  induction cs generalizing exponent with
  | nil => exact floatOfParts_fits h
  | cons c cs ih =>
    unfold readExponent.readDigits at h
    by_cases hc : isDigit c = true
    · rw [if_pos hc] at h
      dsimp only at h
      by_cases hsmall : exponent * 10 + digitValue c < 2147483648
      · rw [if_pos hsmall] at h
        exact ih h
      · rw [if_neg hsmall] at h
        by_cases hlarge : significand ≠ 0 ∧ up = true
        · rw [if_pos hlarge] at h
          cases h
        · rw [if_neg hlarge] at h
          cases h
          trivial
    · rw [if_neg hc] at h
      exact floatOfParts_fits h

/-- A number with an exponent fits. -/
theorem readExponent_fits {significand : Nat} {start : Int}
    (h : readExponent positive significand start cs = .ok (n, rest)) : n.Fits := by
  unfold readExponent at h
  dsimp only at h
  split at h
  · cases h
  · split_ifs at h
    exact readDigits_fits h

/-- A number after its fraction fits. -/
theorem afterFraction_fits {significand : Nat} {exponent : Int}
    (h : afterFraction positive significand exponent cs = .ok (n, rest)) : n.Fits := by
  unfold afterFraction at h
  split at h
  · exact readExponent_fits h
  · exact readExponent_fits h
  · exact floatOfParts_fits h

/-- A number with a fraction fits. -/
theorem readFraction_fits {significand start : Nat}
    (h : readFraction positive significand start cs = .ok (n, rest)) : n.Fits := by
  unfold readFraction at h
  dsimp only at h
  split_ifs at h
  · exact afterFraction_fits h
  · split at h <;> cases h
  · exact afterFraction_fits h

/-- A number with a long integer part fits. -/
theorem afterLongInteger_fits {significand dropped : Nat}
    (h : afterLongInteger positive significand dropped cs = .ok (n, rest)) : n.Fits := by
  unfold afterLongInteger at h
  split at h
  · exact readFraction_fits h
  · exact readExponent_fits h
  · exact readExponent_fits h
  · exact floatOfParts_fits h

/-- Only here does an integer come about, from digits that fit. -/
theorem afterInteger_fits {significand : Nat} (hle : significand ≤ wordMax)
    (h : afterInteger positive significand cs = .ok (n, rest)) : n.Fits := by
  unfold afterInteger at h
  split at h
  · exact readFraction_fits h
  · exact readExponent_fits h
  · exact readExponent_fits h
  · split_ifs at h with hpositive hrange
    · cases h
      exact ⟨by omega, by exact_mod_cast hle⟩
    · cases h
      trivial
    · cases h
      exact ⟨by omega, by omega⟩

/-- A number that is read fits. -/
theorem readNumber_fits (h : readNumber positive cs = .ok (n, rest)) : n.Fits := by
  unfold readNumber at h
  split at h
  · cases h
  · rename_i c cs
    have hvalue : isDigit c = true → digitValue c ≤ wordMax := by
      intro hc
      have hle : c ≤ '9' := by
        simp only [isDigit, Bool.and_eq_true, decide_eq_true_eq] at hc
        exact hc.2
      have hnat : c.toNat ≤ 57 := hle
      have hmax : wordMax = 18446744073709551615 := rfl
      rw [digitValue, hmax]
      omega
    dsimp only at h
    split_ifs at h with hzero hmore hdigit hlong
    · exact afterInteger_fits (Nat.zero_le _) h
    · exact afterLongInteger_fits h
    · exact afterInteger_fits (takeDigits_le (hvalue hdigit) 1 _) h

end fits

/-! ## Values -/

/-- What holds of every item that is read holds of all items of a list. -/
theorem readItems_forall {α : Type} {item : Reader α} {P : α → Prop}
    (hitem : ∀ cs x rest, item cs = .ok (x, rest) → P x) {fuel : Nat} {first : Bool}
    {done xs : List α} {cs rest : List Char} (hdone : ∀ x ∈ done, P x)
    (h : readItems item fuel first done cs = .ok (xs, rest)) : ∀ x ∈ xs, P x := by
  induction fuel generalizing first done cs with
  | zero => cases h
  | succ fuel ih =>
    rw [readItems] at h
    split at h
    · cases h
    · cases h
      intro x hx
      exact hdone x (List.mem_reverse.1 hx)
    · split at h
      · cases h
      · rename_i hx
        exact ih (List.forall_mem_cons.2 ⟨hitem _ _ _ hx, hdone⟩) h

/-- A member is read as its name, a colon and its value. -/
theorem readMember_eq_ok {α : Type} {value : Reader α} {cs rest : List Char} {m : String × α}
    (h : readMember value cs = .ok (m, rest)) :
    ∃ rest₁ rest₂, readText cs = .ok (m.1, rest₁) ∧ readColon rest₁ = .ok rest₂ ∧
      value rest₂ = .ok (m.2, rest) := by
  unfold readMember at h
  split at h
  · cases h
  · rename_i name rest₁ htext
    split at h
    · cases h
    · rename_i rest₂ hcolon
      split at h
      · cases h
      · rename_i v rest₃ hvalue
        cases h
        exact ⟨rest₁, rest₂, htext, hcolon, hvalue⟩

/-- What holds of every value that is read holds of all members of an object. -/
theorem readMembers_forall {α : Type} {value : Reader α} {P : α → Prop}
    (hvalue : ∀ cs x rest, value cs = .ok (x, rest) → P x) {fuel : Nat} {first : Bool}
    {done ms : List (String × α)} {cs rest : List Char} (hdone : ∀ m ∈ done, P m.2)
    (h : readMembers value fuel first done cs = .ok (ms, rest)) : ∀ m ∈ ms, P m.2 := by
  have hmember : ∀ cs m rest, readMember value cs = .ok (m, rest) → P m.2 := by
    intro cs m rest hm
    obtain ⟨_, _, -, -, hx⟩ := readMember_eq_ok hm
    exact hvalue _ _ _ hx
  induction fuel generalizing first done cs with
  | zero => cases h
  | succ fuel ih =>
    rw [readMembers] at h
    split at h
    · cases h
    · cases h
      intro m hm
      exact hdone m (List.mem_reverse.1 hm)
    · split at h
      · cases h
      · rename_i hm
        exact ih (List.forall_mem_cons.2 ⟨hmember _ _ _ hm, hdone⟩) h

/-- A value that was read fits the depth it was read with. -/
theorem readValue_fits {depth : Nat} {cs rest : List Char} {v : Json}
    (h : readValue depth cs = .ok (v, rest)) : Fits depth v := by
  -- the cases are the first characters that a value can have; only lists and objects go on
  -- to values of a smaller depth
  induction depth using Nat.strong_induction_on generalizing cs v rest with
  | _ depth ih =>
    rw [readValue] at h
    split at h
    · cases h
    · obtain ⟨x, -, hv⟩ := map_eq_ok h
      cases hv
      exact .null
    · obtain ⟨x, -, hv⟩ := map_eq_ok h
      cases hv
      exact .bool
    · obtain ⟨x, -, hv⟩ := map_eq_ok h
      cases hv
      exact .bool
    · obtain ⟨x, -, hv⟩ := map_eq_ok h
      cases hv
      exact .str
    · obtain ⟨x, hx, hv⟩ := map_eq_ok h
      cases hv
      exact .number (readNumber_fits hx)
    · cases depth with
      | zero => cases h
      | succ depth =>
        obtain ⟨x, hx, hv⟩ := map_eq_ok h
        cases hv
        exact .arr (readItems_forall (fun _ _ _ => ih depth (Nat.lt_succ_self _)) (by simp) hx)
    · cases depth with
      | zero => cases h
      | succ depth =>
        obtain ⟨x, hx, hv⟩ := map_eq_ok h
        cases hv
        exact .obj (readMembers_forall (fun _ _ _ => ih depth (Nat.lt_succ_self _)) (by simp) hx)
    · split at h
      · obtain ⟨x, hx, hv⟩ := map_eq_ok h
        cases hv
        exact .number (readNumber_fits hx)
      · cases h

/-! ## Distinct members -/

/-- Items are made distinct one by one. -/
theorem distinctItems_eq_map (items : List Json) : distinctItems items = items.map distinct := by
  induction items with
  | nil => rfl
  | cons v vs ih => rw [distinctItems, ih, List.map_cons]

/-- Members are made distinct one by one. -/
theorem distinctMembers_eq_map (members : List (String × Json)) :
    distinctMembers members = members.map fun m => (m.1, m.2.distinct) := by
  induction members with
  | nil => rfl
  | cons m rest ih => rw [distinctMembers, ih, List.map_cons]

/-- Members in the order of their names, which are distinct. -/
def Sorted (members : List (String × Json)) : Prop :=
  members.Pairwise fun m m' => m.1 < m'.1

/-- What is in the members after an insertion was put in or was there before. -/
theorem mem_insert {name : String} {value : Json} {members : List (String × Json)}
    {m : String × Json} (h : m ∈ insert name value members) :
    m = (name, value) ∨ m ∈ members := by
  induction members with
  | nil => simpa [insert] using h
  | cons m' rest ih =>
    obtain ⟨key, v⟩ := m'
    unfold insert at h
    split_ifs at h with hkey hlt
    · rcases List.mem_cons.1 h with hm | hm
      · exact .inl hm
      · exact .inr (List.mem_cons_of_mem _ hm)
    · exact List.mem_cons.1 h
    · rcases List.mem_cons.1 h with hm | hm
      · exact .inr (hm ▸ List.mem_cons_self)
      · exact (ih hm).imp_right (List.mem_cons_of_mem _)

/-- Members stay in the order of their names when one is inserted. -/
theorem sorted_insert {name : String} {value : Json} {members : List (String × Json)}
    (h : Sorted members) : Sorted (insert name value members) := by
  induction members with
  | nil => simp [insert, Sorted]
  | cons m rest ih =>
    obtain ⟨key, v⟩ := m
    obtain ⟨hfirst, hrest⟩ := List.pairwise_cons.1 h
    unfold insert
    split_ifs with hkey hlt
    · subst hkey
      exact List.pairwise_cons.2 ⟨hfirst, hrest⟩
    · refine List.pairwise_cons.2 ⟨?_, h⟩
      intro m hm
      rcases List.mem_cons.1 hm with rfl | hm
      · exact hlt
      · exact hlt.trans (hfirst m hm)
    · refine List.pairwise_cons.2 ⟨?_, ih hrest⟩
      intro m hm
      rcases mem_insert hm with rfl | hm
      · exact lt_of_le_of_ne (not_lt.1 hlt) hkey
      · exact hfirst m hm

/-- The members of an object, each value made distinct, are put in one by one. -/
def insertAll (done members : List (String × Json)) : List (String × Json) :=
  members.foldl (fun ms m => insert m.1 m.2 ms) done

/-- Members stay in the order of their names when some are inserted. -/
theorem sorted_insertAll {done : List (String × Json)} (h : Sorted done)
    (members : List (String × Json)) : Sorted (insertAll done members) := by
  induction members generalizing done with
  | nil => exact h
  | cons m rest ih => exact ih (sorted_insert h)

/-- What is there after an insertion was there before or was inserted. -/
theorem mem_insertAll {done members : List (String × Json)} {m : String × Json}
    (h : m ∈ insertAll done members) : m ∈ done ∨ m ∈ members := by
  induction members generalizing done with
  | nil => exact .inl h
  | cons m' rest ih =>
    rcases ih h with hm | hm
    · rcases mem_insert hm with rfl | hm
      · exact .inr List.mem_cons_self
      · exact .inl hm
    · exact .inr (List.mem_cons_of_mem m' hm)

/-- A member that comes after all others is put at their end. -/
theorem insert_last {name : String} {value : Json} {members : List (String × Json)}
    (h : ∀ m ∈ members, m.1 < name) : insert name value members = members ++ [(name, value)] := by
  induction members with
  | nil => rfl
  | cons m rest ih =>
    obtain ⟨key, v⟩ := m
    have hkey : key < name := h (key, v) List.mem_cons_self
    rw [insert, if_neg hkey.ne, if_neg hkey.not_gt,
      ih fun m hm => h m (List.mem_cons_of_mem _ hm), List.cons_append]

/-- Members that are in order already stay as they are. -/
theorem insertAll_of_sorted {done members : List (String × Json)}
    (h : Sorted (done ++ members)) : insertAll done members = done ++ members := by
  induction members generalizing done with
  | nil => simp [insertAll]
  | cons m rest ih =>
    have hbefore : ∀ m' ∈ done, m'.1 < m.1 := fun m' hm =>
      (List.pairwise_append.1 h).2.2 m' hm m List.mem_cons_self
    have hdone : done ++ [m] ++ rest = done ++ m :: rest := by simp
    rw [insertAll, List.foldl_cons, insert_last hbefore, ← insertAll, ih (hdone ▸ h), hdone]

/-- An object is made distinct by inserting its distinct members. -/
theorem distinct_obj (members : List (String × Json)) :
    distinct (.obj members) = .obj (insertAll [] (members.map fun m => (m.1, m.2.distinct))) := by
  rw [distinct, distinctMembers_eq_map]
  rfl

/-- A list is made distinct item by item. -/
theorem distinct_arr (items : List Json) : distinct (.arr items) = .arr (items.map distinct) := by
  rw [distinct, distinctItems_eq_map]

/-- Making members distinct makes nothing deeper and no integer larger. -/
theorem Fits.distinct {depth : Nat} {v : Json} (h : Fits depth v) : Fits depth v.distinct := by
  induction h with
  | null => exact .null
  | bool => exact .bool
  | number fits => exact .number fits
  | str => exact .str
  | arr _ ih =>
    rw [distinct_arr]
    refine .arr ?_
    simpa using ih
  | obj _ ih =>
    rw [distinct_obj]
    refine .obj fun m hm => ?_
    rcases mem_insertAll hm with hm | hm
    · cases hm
    · obtain ⟨m', hm', rfl⟩ := List.mem_map.1 hm
      exact ih m' hm'

/-- Making members distinct is done once for all. -/
theorem distinct_distinct {depth : Nat} {v : Json} (h : Fits depth v) :
    v.distinct.distinct = v.distinct := by
  induction h with
  | null => rfl
  | bool => rfl
  | number => rfl
  | str => rfl
  | arr _ ih =>
    rw [distinct_arr, distinct_arr, List.map_map]
    exact congrArg Json.arr (List.map_congr_left fun v hv => ih v hv)
  | @obj _ members _ ih =>
    rw [distinct_obj, distinct_obj]
    have hvalues : (insertAll [] (members.map fun m => (m.1, m.2.distinct))).map
        (fun m => (m.1, m.2.distinct)) = insertAll [] (members.map fun m => (m.1, m.2.distinct)) := by
      conv_rhs => rw [← List.map_id (insertAll [] _)]
      refine List.map_congr_left fun m hm => ?_
      rcases mem_insertAll hm with hm | hm
      · cases hm
      · obtain ⟨m', hm', rfl⟩ := List.mem_map.1 hm
        exact congrArg (Prod.mk m'.1) (ih m' hm')
    rw [hvalues]
    have hsorted : Sorted (insertAll [] (members.map fun m => (m.1, m.2.distinct))) :=
      sorted_insertAll List.Pairwise.nil _
    exact congrArg Json.obj (@insertAll_of_sorted [] _ hsorted)

/-- Nothing but null is null when it is made distinct. -/
theorem distinct_eq_null_iff (v : Json) : v.distinct = .null ↔ v = .null := by
  cases v with
  | arr items => simp [distinct_arr]
  | obj members => simp [distinct_obj]
  | _ => simp [distinct]

end ChatGateway.Json
