import Mathlib
import ChatGateway.Json.Reader
import ChatGateway.Proofs.Json.Tokens

/-!
# Values read back

A value without doubles that nests no deeper than the reader allows, with integers that
fit 64 bits, is read back from what is printed for it.  Whatever may follow a value inside
a list or an object may follow it here.
-/

set_option autoImplicit false

namespace ChatGateway

/-- Whether an integer fits 64 bits, signed or not. -/
def Number.Fits : Number → Prop
  | .int n => -9223372036854775808 ≤ n ∧ n ≤ Json.wordMax
  | .float _ => True

namespace Json

/-- The values that nest at most `depth` deep and hold integers of 64 bits only. -/
inductive Fits : Nat → Json → Prop
  | null {depth : Nat} : Fits depth .null
  | bool {depth : Nat} {b : Bool} : Fits depth (.bool b)
  | number {depth : Nat} {n : Number} (fits : n.Fits) : Fits depth (.number n)
  | str {depth : Nat} {s : String} : Fits depth (.str s)
  | arr {depth : Nat} {items : List Json} (items_fit : ∀ v ∈ items, Fits depth v) :
      Fits (depth + 1) (.arr items)
  | obj {depth : Nat} {members : List (String × Json)}
      (members_fit : ∀ m ∈ members, Fits depth m.2) : Fits (depth + 1) (.obj members)

mutual

/-- Whether a value holds no doubles. -/
def isFloatFree : Json → Bool
  | .number (.float _) => false
  | .arr items => areFloatFree items
  | .obj members => membersFloatFree members
  | _ => true

/-- Whether no item holds doubles. -/
def areFloatFree : List Json → Bool
  | [] => true
  | v :: vs => isFloatFree v && areFloatFree vs

/-- Whether no member holds doubles. -/
def membersFloatFree : List (String × Json) → Bool
  | [] => true
  | (_, v) :: rest => isFloatFree v && membersFloatFree rest

end

/-- A list holds no doubles exactly if none of its items does. -/
theorem areFloatFree_iff (items : List Json) :
    areFloatFree items = true ↔ ∀ v ∈ items, v.isFloatFree = true := by
  induction items with
  | nil => simp [areFloatFree]
  | cons v vs ih => simp [areFloatFree, ih]

/-- Members hold no doubles exactly if none of their values does. -/
theorem membersFloatFree_iff (members : List (String × Json)) :
    membersFloatFree members = true ↔ ∀ m ∈ members, m.2.isFloatFree = true := by
  induction members with
  | nil => simp [membersFloatFree]
  | cons m rest ih => simp [membersFloatFree, ih]

/-! ## What a value starts with -/

/-- Whether a character is neither a blank nor the end of a list. -/
def isSolid (c : Char) : Bool :=
  c ≠ ' ' && c ≠ '\n' && c ≠ '\t' && c ≠ '\r' && c ≠ ']'

/-- Nothing is skipped in front of what is solid. -/
theorem skipBlank_of_isSolid {c : Char} (h : isSolid c = true) (cs : List Char) :
    skipBlank (c :: cs) = c :: cs := by
  simp only [isSolid, Bool.and_eq_true, decide_eq_true_eq] at h
  obtain ⟨⟨⟨⟨h1, h2⟩, h3⟩, h4⟩, -⟩ := h
  simp [skipBlank, h1, h2, h3, h4]

/-- Digits are solid. -/
theorem isSolid_of_isDigit {c : Char} (h : isDigit c = true) : isSolid c = true := by
  have hne : ∀ d : Char, isDigit d = false → c ≠ d := by
    rintro d hd rfl
    rw [h] at hd
    cases hd
  simp [isSolid, hne ' ' (by decide), hne '\n' (by decide), hne '\t' (by decide),
    hne '\r' (by decide), hne ']' (by decide)]

/-- The characters of an integer. -/
theorem printNumber_int (n : Int) :
    printNumber (.int n) =
      if 0 ≤ n then Nat.toDigits 10 n.natAbs else '-' :: Nat.toDigits 10 n.natAbs := by
  cases n with
  | ofNat k => simp [printNumber, Int.toString_eq_repr, Int.repr, Nat.toList_repr]
  | negSucc k =>
    simp [printNumber, Int.toString_eq_repr, Int.repr, Nat.toList_repr, Int.natAbs_negSucc]

/-- What is printed for a value without doubles starts with a solid character. -/
theorem print_eq_cons {v : Json} (h : v.isFloatFree = true) :
    ∃ c cs, print v = c :: cs ∧ isSolid c = true := by
  match v with
  | .null => exact ⟨_, _, rfl, by decide⟩
  | .bool true => exact ⟨_, _, rfl, by decide⟩
  | .bool false => exact ⟨_, _, rfl, by decide⟩
  | .number (.float _) => simp [isFloatFree] at h
  | .number (.int n) =>
    rw [print, printNumber_int]
    split
    · obtain ⟨c, cs, hcs⟩ := List.exists_cons_of_ne_nil (@Nat.toDigits_ne_nil n.natAbs 10)
      refine ⟨c, cs, hcs, isSolid_of_isDigit (isDigit_of_mem_toDigits (n := n.natAbs) ?_)⟩
      rw [hcs]
      exact List.mem_cons_self
    · exact ⟨_, _, rfl, by decide⟩
  | .str s => exact ⟨_, _, rfl, by decide⟩
  | .arr items => exact ⟨_, _, rfl, by decide⟩
  | .obj members => exact ⟨_, _, rfl, by decide⟩

/-! ## Lists and objects -/

/-- The items of a list stand with commas between them. -/
theorem printItems_cons (v : Json) (vs : List Json) :
    printItems (v :: vs) = print v ++ vs.flatMap fun w => ',' :: print w := by
  induction vs generalizing v with
  | nil => simp [printItems]
  | cons w rest ih => simp [printItems, ih]

/-- What is printed for one member of an object. -/
def printMember (m : String × Json) : List Char :=
  printText m.1 ++ ':' :: print m.2

/-- The members of an object stand with commas between them. -/
theorem printMembers_cons (m : String × Json) (ms : List (String × Json)) :
    printMembers (m :: ms) = printMember m ++ ms.flatMap fun m' => ',' :: printMember m' := by
  induction ms generalizing m with
  | nil => simp [printMembers, printMember]
  | cons m' rest ih => simp [printMembers, printMember, ih]

/-- What comes before the end of a list or an object ends a number. -/
theorem endsNumber_flatMap {α : Type} (write : α → List Char) (xs : List α) {c : Char}
    (hc : endsNumber [c] = true) (rest : List Char) :
    endsNumber ((xs.flatMap fun x => ',' :: write x) ++ c :: rest) = true := by
  cases xs with
  | nil => exact hc
  | cons x xs => rfl

/-- What is solid is not the end of a list. -/
theorem ne_bracket_of_isSolid {c : Char} (h : isSolid c = true) : c ≠ ']' := by
  rintro rfl
  exact absurd h (by decide)

/-- A list goes on with whatever starts with a solid character. -/
theorem nextItem_first {c : Char} (hc : isSolid c = true) (cs : List Char) :
    nextItem true (c :: cs) = .ok (.more (c :: cs)) := by
  have hne := ne_bracket_of_isSolid hc
  simp [nextItem, skipBlank_of_isSolid hc]

/-- Behind a comma comes the next item. -/
theorem nextItem_comma {c : Char} (hc : isSolid c = true) (cs : List Char) :
    nextItem false (',' :: c :: cs) = .ok (.more (c :: cs)) := by
  have hcomma : skipBlank (',' :: c :: cs) = ',' :: c :: cs := skipBlank_of_isSolid (by decide) _
  have hne := ne_bracket_of_isSolid hc
  simp only [nextItem, hcomma, Char.reduceEq, imp_self, Bool.false_eq_true, ↓reduceIte,
    skipBlank_of_isSolid hc]
  split
  · rename_i h
    cases h
  · rename_i h
    exact absurd (List.cons.inj h).1 hne
  · rfl

section items

variable {α : Type} {item : Reader α} {write : α → List Char}

/-- The items after the first one are read back up to the end of the list. -/
theorem readItems_more {xs : List α}
    (hread : ∀ x ∈ xs, ∀ rest, endsNumber rest = true → item (write x ++ rest) = .ok (x, rest))
    (hstart : ∀ x ∈ xs, ∃ c cs, write x = c :: cs ∧ isSolid c = true) (done : List α)
    {fuel : Nat} (hfuel : xs.length < fuel) (rest : List Char) :
    readItems item fuel false done ((xs.flatMap fun x => ',' :: write x) ++ ']' :: rest) =
      .ok (done.reverse ++ xs, rest) := by
  induction xs generalizing fuel done with
  | nil =>
    obtain ⟨fuel, rfl⟩ := Nat.exists_eq_add_of_lt hfuel
    simp [readItems, nextItem, skipBlank]
  | cons x xs ih =>
    obtain ⟨fuel, rfl⟩ := Nat.exists_eq_add_of_lt hfuel
    obtain ⟨c, cs, hx, hc⟩ := hstart x List.mem_cons_self
    have hitem := hread x List.mem_cons_self _
      (endsNumber_flatMap write xs (c := ']') rfl rest)
    have hnext : ∀ more, nextItem false (',' :: (write x ++ more)) = .ok (.more (write x ++ more)) := by
      intro more
      rw [hx, List.cons_append, nextItem_comma hc]
    rw [List.flatMap_cons, List.append_assoc, List.cons_append, readItems, hnext]
    simp only [hitem]
    rw [ih (fun y hy => hread y (List.mem_cons_of_mem x hy))
      (fun y hy => hstart y (List.mem_cons_of_mem x hy)) _
      (by simp only [List.length_cons]; omega)]
    simp

/-- The items of a list are read back after its opening bracket. -/
theorem readItems_first {x : α} {xs : List α}
    (hread : ∀ y ∈ x :: xs, ∀ rest, endsNumber rest = true → item (write y ++ rest) = .ok (y, rest))
    (hstart : ∀ y ∈ x :: xs, ∃ c cs, write y = c :: cs ∧ isSolid c = true)
    {fuel : Nat} (hfuel : xs.length + 1 < fuel) (rest : List Char) :
    readItems item fuel true [] (write x ++ ((xs.flatMap fun x => ',' :: write x) ++ ']' :: rest)) =
      .ok (x :: xs, rest) := by
  obtain ⟨fuel, rfl⟩ := Nat.exists_eq_add_of_lt hfuel
  obtain ⟨c, cs, hx, hc⟩ := hstart x List.mem_cons_self
  have hitem := hread x List.mem_cons_self _ (endsNumber_flatMap write xs (c := ']') rfl rest)
  have hnext : ∀ more, nextItem true (write x ++ more) = .ok (.more (write x ++ more)) := by
    intro more
    rw [hx, List.cons_append, nextItem_first hc]
  rw [readItems, hnext]
  simp only [hitem]
  rw [readItems_more (fun y hy => hread y (List.mem_cons_of_mem x hy))
    (fun y hy => hstart y (List.mem_cons_of_mem x hy)) _ (by omega)]
  simp

end items

/-- What is printed for a member after its opening quote is read back. -/
theorem readMember_printed {value : Reader Json} {m : String × Json} {rest : List Char}
    (hread : value (print m.2 ++ rest) = .ok (m.2, rest)) :
    readMember value (m.1.toList.flatMap escapedChar ++ '"' :: ':' :: (print m.2 ++ rest)) =
      .ok (m, rest) := by
  have hcolon : readColon (':' :: (print m.2 ++ rest)) = .ok (print m.2 ++ rest) := by
    simp [readColon, skipBlank]
  simp [readMember, readText_escaped, hcolon, hread]

/-- The first member begins with its name. -/
theorem nextMember_first (name : String) (more : List Char) :
    nextMember true (printText name ++ more) =
      .ok (.more (name.toList.flatMap escapedChar ++ '"' :: more)) := by
  simp [nextMember, printText, skipBlank]

/-- Behind a comma comes the next member, which begins with its name. -/
theorem nextMember_comma (name : String) (more : List Char) :
    nextMember false (',' :: (printText name ++ more)) =
      .ok (.more (name.toList.flatMap escapedChar ++ '"' :: more)) := by
  simp [nextMember, printText, skipBlank]

section members

variable {value : Reader Json}

/-- The members after the first one are read back up to the end of the object. -/
theorem readMembers_more {ms : List (String × Json)}
    (hread : ∀ m ∈ ms, ∀ rest, endsNumber rest = true → value (print m.2 ++ rest) = .ok (m.2, rest))
    (done : List (String × Json)) {fuel : Nat} (hfuel : ms.length < fuel) (rest : List Char) :
    readMembers value fuel false done
        ((ms.flatMap fun m => ',' :: printMember m) ++ '\x7d' :: rest) =
      .ok (done.reverse ++ ms, rest) := by
  induction ms generalizing fuel done with
  | nil =>
    obtain ⟨fuel, rfl⟩ := Nat.exists_eq_add_of_lt hfuel
    simp [readMembers, nextMember, skipBlank]
  | cons m ms ih =>
    obtain ⟨fuel, rfl⟩ := Nat.exists_eq_add_of_lt hfuel
    have hvalue := hread m List.mem_cons_self _
      (endsNumber_flatMap printMember ms (c := '\x7d') rfl rest)
    rw [List.flatMap_cons, List.append_assoc, List.cons_append, printMember, List.append_assoc,
      List.cons_append, readMembers, nextMember_comma]
    simp only [readMember_printed hvalue]
    rw [ih (fun m' hm => hread m' (List.mem_cons_of_mem m hm)) _
      (by simp only [List.length_cons]; omega)]
    simp

/-- The members of an object are read back after its opening brace. -/
theorem readMembers_first {m : String × Json} {ms : List (String × Json)}
    (hread : ∀ m' ∈ m :: ms, ∀ rest, endsNumber rest = true →
      value (print m'.2 ++ rest) = .ok (m'.2, rest))
    {fuel : Nat} (hfuel : ms.length + 1 < fuel) (rest : List Char) :
    readMembers value fuel true []
        (printMember m ++ ((ms.flatMap fun m => ',' :: printMember m) ++ '\x7d' :: rest)) =
      .ok (m :: ms, rest) := by
  obtain ⟨fuel, rfl⟩ := Nat.exists_eq_add_of_lt hfuel
  have hvalue := hread m List.mem_cons_self _
    (endsNumber_flatMap printMember ms (c := '\x7d') rfl rest)
  rw [printMember, List.append_assoc, List.cons_append, readMembers, nextMember_first]
  simp only [readMember_printed hvalue]
  rw [readMembers_more (fun m' hm => hread m' (List.mem_cons_of_mem m hm)) _ (by omega)]
  simp

end members

/-! ## Values -/

/-- A list of pieces, each after a comma, is no shorter than the list. -/
theorem length_le_length_flatMap_cons {α : Type} (write : α → List Char) (xs : List α) :
    xs.length ≤ (xs.flatMap fun x => ',' :: write x).length := by
  induction xs with
  | nil => simp
  | cons x xs ih =>
    simp only [List.flatMap_cons, List.length_append, List.length_cons]
    omega

/-- A digit starts a number. -/
theorem readValue_digit (depth : Nat) {c : Char} (h : isDigit c = true) (cs : List Char) :
    readValue depth (c :: cs) = (readNumber true (c :: cs)).map fun (n, rest) => (.number n, rest) := by
  have hne : ∀ d : Char, isDigit d = false → c ≠ d := by
    rintro d hd rfl
    rw [h] at hd
    cases hd
  have h1 := hne 'n' (by decide)
  have h2 := hne 't' (by decide)
  have h3 := hne 'f' (by decide)
  have h4 := hne '"' (by decide)
  have h5 := hne '-' (by decide)
  have h6 := hne '[' (by decide)
  have h7 := hne '\x7b' (by decide)
  rw [readValue]
  simp only [skipBlank_of_isSolid (isSolid_of_isDigit h), h, ↓reduceIte]

/-- An integer of 64 bits is read back. -/
theorem readValue_int (depth : Nat) {n : Int} (h : (Number.int n).Fits) {rest : List Char}
    (hrest : endsNumber rest = true) :
    readValue depth (print (.number (.int n)) ++ rest) = .ok (.number (.int n), rest) := by
  obtain ⟨hlow, hhigh⟩ := h
  have hmax : wordMax = 18446744073709551615 := rfl
  have hfits : n.natAbs ≤ wordMax := by omega
  rw [print, printNumber_int]
  split
  · rename_i hn
    obtain ⟨c, cs, hcs⟩ := List.exists_cons_of_ne_nil (@Nat.toDigits_ne_nil n.natAbs 10)
    have hc : isDigit c = true := isDigit_of_mem_toDigits (n := n.natAbs) (by
      rw [hcs]
      exact List.mem_cons_self)
    have hread := readNumber_toDigits true hfits hrest
    rw [afterInteger_of_endsNumber true _ hrest, if_pos rfl, hcs, List.cons_append] at hread
    rw [hcs, List.cons_append, readValue_digit depth hc, hread]
    simp only [Except.map, show (n.natAbs : Int) = n by omega]
  · rename_i hn
    have hread := readNumber_toDigits false hfits hrest
    rw [afterInteger_of_endsNumber false _ hrest, if_neg (by simp), if_neg (by omega)] at hread
    rw [List.cons_append, readValue, skipBlank_of_isSolid (by decide)]
    simp only [hread, Except.map, show -(n.natAbs : Int) = n by omega]

/-- **Values.**  A value without doubles that fits is read back from what is printed for
it, and what follows it is left. -/
theorem readValue_print {depth : Nat} {v : Json} (hfits : Fits depth v)
    (hfloat : v.isFloatFree = true) {rest : List Char} (hrest : endsNumber rest = true) :
    readValue depth (print v ++ rest) = .ok (v, rest) := by
  -- the rest has to be arbitrary: an item is followed by the other items
  induction hfits generalizing rest with
  | null => rw [readValue]; rfl
  | @bool _ b => cases b <;> (rw [readValue]; rfl)
  | @number _ n hn =>
    cases n with
    | int n => exact readValue_int _ hn hrest
    | float bits => simp [isFloatFree] at hfloat
  | @str _ s =>
    rw [print, printText, List.append_assoc, List.cons_append, List.cons_append, readValue,
      skipBlank_of_isSolid (by decide)]
    simp [readText_escaped, Except.map]
  | @arr depth items hitems ih =>
    rw [isFloatFree, areFloatFree_iff] at hfloat
    have hread : ∀ v ∈ items, ∀ rest, endsNumber rest = true →
        readValue depth (print v ++ rest) = .ok (v, rest) := fun v hv rest hrest =>
      ih v hv (hfloat v hv) hrest
    have hstart : ∀ v ∈ items, ∃ c cs, print v = c :: cs ∧ isSolid c = true := fun v hv =>
      print_eq_cons (hfloat v hv)
    rw [print, List.append_assoc, List.cons_append, readValue, skipBlank_of_isSolid (by decide)]
    cases items with
    | nil => simp [printItems, readItems, nextItem, skipBlank, Except.map]
    | cons v vs =>
      have hlength := length_le_length_flatMap_cons print vs
      rw [printItems_cons, List.append_assoc]
      simp only [List.singleton_append]
      rw [readItems_first hread hstart (by simp only [List.length_append, List.length_cons]; omega)]
      rfl
  | @obj depth members hmembers ih =>
    rw [isFloatFree, membersFloatFree_iff] at hfloat
    have hread : ∀ m ∈ members, ∀ rest, endsNumber rest = true →
        readValue depth (print m.2 ++ rest) = .ok (m.2, rest) := fun m hm rest hrest =>
      ih m hm (hfloat m hm) hrest
    rw [print, List.append_assoc, List.cons_append, readValue, skipBlank_of_isSolid (by decide)]
    cases members with
    | nil => simp [printMembers, readMembers, nextMember, skipBlank, Except.map]
    | cons m ms =>
      have hlength := length_le_length_flatMap_cons printMember ms
      rw [printMembers_cons, List.append_assoc]
      simp only [List.singleton_append]
      rw [readMembers_first hread (by simp only [List.length_append, List.length_cons]; omega)]
      rfl

end Json

end ChatGateway
