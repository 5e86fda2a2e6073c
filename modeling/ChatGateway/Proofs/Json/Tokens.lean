import Mathlib
import ChatGateway.Json.Printer
import ChatGateway.Json.Scan

/-!
# Texts and numbers read back

What is printed for a text or an integer is read back, with the rest of the text left as
it was.  A text ends at its quote, so anything may follow it; a number ends where nothing
can belong to it any more.
-/

set_option autoImplicit false

namespace ChatGateway.Json

/-! ## Texts -/

/-- A text has at least as many bytes as characters. -/
theorem length_le_byteLength (cs : List Char) : cs.length ≤ Text.Utf8.byteLength cs := by
  have key : ∀ n, n + cs.length ≤ cs.foldl (fun n c => n + c.utf8Size) n := by
    induction cs with
    | nil => simp
    | cons c cs ih =>
      intro n
      have hc := c.utf8Size_pos
      have hrest := ih (n + c.utf8Size)
      simp only [List.foldl_cons, List.length_cons]
      omega
  simpa [Text.Utf8.byteLength] using key 0

/-- A hexadecimal digit has the value that it is written for. -/
theorem hexValue?_hexDigit {n : Nat} (h : n < 16) : hexValue? (Text.hexDigit n) = some n := by
  interval_cases n <;> decide

/-- The escape of a control by its number. -/
theorem readUnicode_control {n : Nat} (h : n < 0x20) (rest : List Char) :
    readUnicode ('0' :: '0' :: Text.hexDigit (n / 16) :: Text.hexDigit (n % 16) :: rest) =
      .ok (Char.ofNat n, rest) := by
  have hbytes := length_le_byteLength
    ('0' :: '0' :: Text.hexDigit (n / 16) :: Text.hexDigit (n % 16) :: rest)
  simp only [List.length_cons] at hbytes
  have hzero : hexValue? '0' = some 0 := by decide
  have hhex : readHex4 ('0' :: '0' :: Text.hexDigit (n / 16) :: Text.hexDigit (n % 16) :: rest) =
      .ok (n, rest) := by
    simp only [readHex4]
    rw [if_neg (by omega)]
    simp only [hzero, hexValue?_hexDigit (show n / 16 < 16 by omega),
      hexValue?_hexDigit (show n % 16 < 16 by omega)]
    congr
    omega
  simp only [readUnicode, hhex]
  rw [if_neg (by omega), if_pos (by omega)]

/-- A character is read back from what is written for it. -/
theorem readTextChar_escapedChar (c : Char) (rest : List Char) :
    readTextChar (escapedChar c ++ rest) = .ok (some c, rest) := by
  unfold escapedChar
  split_ifs with hquote hslash hb hf hn hr ht hcontrol
  · subst hquote; rfl
  · subst hslash; rfl
  · subst hb; rfl
  · subst hf; rfl
  · subst hn; rfl
  · subst hr; rfl
  · subst ht; rfl
  · have hc : Char.ofNat c.toNat = c := Char.ofNat_toNat c
    simp [readTextChar, readUnicode_control hcontrol, hc]
  · simp [readTextChar, hcontrol]

/-- Every character is written as something. -/
theorem escapedChar_ne_nil (c : Char) : escapedChar c ≠ [] := by
  unfold escapedChar
  split_ifs <;> simp

/-- Writing a text makes it no shorter. -/
theorem length_le_length_flatMap_escapedChar (cs : List Char) :
    cs.length ≤ (cs.flatMap escapedChar).length := by
  induction cs with
  | nil => simp
  | cons c cs ih =>
    have hc := List.length_pos_iff.2 (escapedChar_ne_nil c)
    simp only [List.flatMap_cons, List.length_append, List.length_cons]
    omega

/-- The characters of a text are read back up to its quote. -/
theorem readChars_escaped (cs done rest : List Char) {fuel : Nat} (h : cs.length < fuel) :
    readChars fuel done (cs.flatMap escapedChar ++ '"' :: rest) = .ok (done.reverse ++ cs, rest) := by
  induction cs generalizing fuel done with
  | nil =>
    obtain ⟨fuel, rfl⟩ := Nat.exists_eq_add_of_lt h
    simp [readChars, readTextChar]
  | cons c cs ih =>
    obtain ⟨fuel, rfl⟩ := Nat.exists_eq_add_of_lt h
    rw [List.flatMap_cons, List.append_assoc, readChars, readTextChar_escapedChar]
    simp only
    rw [ih _ (by simp only [List.length_cons]; omega)]
    simp

/-- A text is read back after its opening quote. -/
theorem readText_escaped (s : String) (rest : List Char) :
    readText (s.toList.flatMap escapedChar ++ '"' :: rest) = .ok (s, rest) := by
  have hfuel := length_le_length_flatMap_escapedChar s.toList
  rw [readText, readChars_escaped _ _ _ (by simp only [List.length_append]; omega)]
  simp

/-! ## Numbers -/

/-- Whether nothing at the front of `cs` can belong to a number. -/
def endsNumber : List Char → Bool
  | [] => true
  | c :: _ => !isDigit c && c ≠ '.' && c ≠ 'e' && c ≠ 'E'

/-- What ends a number is no digit. -/
theorem startsWithDigit_of_endsNumber {cs : List Char} (h : endsNumber cs = true) :
    startsWithDigit cs = false := by
  cases cs with
  | nil => rfl
  | cons c cs =>
    simp only [endsNumber, Bool.and_eq_true, Bool.not_eq_true'] at h
    exact h.1.1.1

/-- The number that follows the integer digits is that of the digits. -/
theorem afterInteger_of_endsNumber (positive : Bool) (n : Nat) {cs : List Char}
    (h : endsNumber cs = true) :
    afterInteger positive n cs =
      if positive then .ok (.int n, cs)
      else if n = 0 ∨ 9223372036854775808 < n then
        .ok (.float (-(UInt64.ofNat n).toFloat).toBits, cs)
      else .ok (.int (-n), cs) := by
  unfold afterInteger
  split
  · simp [endsNumber] at h
  · simp [endsNumber] at h
  · simp [endsNumber] at h
  · rfl

/-- The reader has the digits that core has. -/
theorem isDigit_iff (c : Char) : isDigit c = true ↔ c.isDigit = true := by
  simp [isDigit, Char.isDigit, Char.le_def]

/-- Reading more digits makes a number no less. -/
theorem le_ofDigitChars (ds : List Char) (n : Nat) : n ≤ Nat.ofDigitChars 10 ds n := by
  induction ds generalizing n with
  | nil => simp
  | cons c ds ih =>
    rw [Nat.ofDigitChars_cons]
    have := ih (10 * n + (c.toNat - '0'.toNat))
    omega

/-- Digits are taken as long as their number fits, up to what ends the number. -/
theorem takeDigits_append {ds : List Char} (hds : ∀ c ∈ ds, isDigit c = true) (n count : Nat)
    (hfits : Nat.ofDigitChars 10 ds n ≤ wordMax) {rest : List Char}
    (hrest : startsWithDigit rest = false) :
    takeDigits n count (ds ++ rest) = (Nat.ofDigitChars 10 ds n, count + ds.length, rest) := by
  induction ds generalizing n count with
  | nil =>
    cases rest with
    | nil => simp [takeDigits]
    | cons c rest =>
      have hc : isDigit c = false := hrest
      simp [takeDigits, hc]
  | cons c ds ih =>
    rw [Nat.ofDigitChars_cons] at hfits ⊢
    have hvalue : n * 10 + digitValue c = 10 * n + (c.toNat - '0'.toNat) := by
      rw [Nat.mul_comm]
      rfl
    have hle := (le_ofDigitChars ds _).trans hfits
    have hrec := ih (fun d hd => hds d (List.mem_cons_of_mem c hd)) _ (count + 1) hfits
    rw [List.cons_append, takeDigits, if_pos (hds c List.mem_cons_self)]
    simp only [hvalue]
    rw [if_pos hle, hrec, List.length_cons, Nat.add_right_comm, Nat.add_assoc]

/-- The digits of a positive number do not start with a zero. -/
theorem toDigits_eq_cons {n : Nat} (h : 0 < n) :
    ∃ c ds, Nat.toDigits 10 n = c :: ds ∧ c ≠ '0' := by
  induction n using Nat.strong_induction_on with
  | _ n ih =>
    rcases Nat.lt_or_ge n 10 with hlt | hge
    · refine ⟨n.digitChar, [], Nat.toDigits_of_lt_base hlt, ?_⟩
      interval_cases n <;> decide
    · obtain ⟨c, ds, hds, hc⟩ := ih (n / 10) (by omega) (by omega)
      exact ⟨c, ds ++ [(n % 10).digitChar], by rw [Nat.toDigits_of_base_le (by omega) hge, hds,
        List.cons_append], hc⟩

/-- A number in digits has digits only. -/
theorem isDigit_of_mem_toDigits {n : Nat} {c : Char} (h : c ∈ Nat.toDigits 10 n) :
    isDigit c = true :=
  (isDigit_iff c).2 (Nat.isDigit_of_mem_toDigits (by omega) (by omega) h)

/-- The digits of a number that fits 64 bits are read back. -/
theorem readNumber_toDigits (positive : Bool) {n : Nat} (hfits : n ≤ wordMax) {rest : List Char}
    (hrest : endsNumber rest = true) :
    readNumber positive (Nat.toDigits 10 n ++ rest) = afterInteger positive n rest := by
  have hstart := startsWithDigit_of_endsNumber hrest
  rcases Nat.eq_zero_or_pos n with rfl | hpos
  · simp [readNumber, Nat.toDigits_zero, hstart]
  · obtain ⟨c, ds, hds, hc⟩ := toDigits_eq_cons hpos
    have hdigits : ∀ d ∈ c :: ds, isDigit d = true := fun d hd =>
      isDigit_of_mem_toDigits (hds ▸ hd)
    have hvalue : Nat.ofDigitChars 10 ds (digitValue c) = n := by
      have htotal : Nat.ofDigitChars 10 (c :: ds) 0 = n := by
        rw [← hds, Nat.ofDigitChars_ten_toDigits]
      rw [Nat.ofDigitChars_cons] at htotal
      simpa [digitValue] using htotal
    have htake := takeDigits_append (fun d hd => hdigits d (List.mem_cons_of_mem c hd))
      (digitValue c) 1 (by rw [hvalue]; exact hfits) hstart
    rw [hds, List.cons_append, readNumber, if_neg hc, if_pos (hdigits c List.mem_cons_self)]
    simp only [htake, hvalue, hstart, Bool.false_eq_true, ↓reduceIte]

end ChatGateway.Json
