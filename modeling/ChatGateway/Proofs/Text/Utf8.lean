import Mathlib
import ChatGateway.Text.Utf8

/-!
# UTF-8 read back

The machine that reads bytes undoes the encoding character by character, whatever bytes
follow.  Both readings therefore give an encoded text back, and the strict one accepts nothing
else (`decode?_eq_some_iff`).  An encoded text holds the byte of a line feed only where the text
holds the line feed itself.  A text that is cut where a part of it ends is cut between two
characters.
-/

set_option autoImplicit false

namespace ChatGateway.Text.Utf8

/-! ## One byte -/

/-- A number below 256 is the byte made of it. -/
theorem toNat_ofNat_of_lt {n : Nat} (h : n < 256) : (UInt8.ofNat n).toNat = n := by
  rw [UInt8.toNat_ofNat']
  omega

/-- A byte that continues a character lies in the range that the character asks for. -/
theorem inRange_iff {p : Partial} {k : Nat} (hk : k < 64) :
    (p.low ≤ UInt8.ofNat (0x80 + k) ∧ UInt8.ofNat (0x80 + k) ≤ p.high) ↔
      p.low.toNat ≤ 0x80 + k ∧ 0x80 + k ≤ p.high.toNat := by
  rw [UInt8.le_iff_toNat_le, UInt8.le_iff_toNat_le, toNat_ofNat_of_lt (by omega)]

/-- The last byte of a character. -/
theorem units_last {p : Partial} {k : Nat} (hk : k < 64) (hmore : p.more = 0)
    (hrange : p.low.toNat ≤ 0x80 + k ∧ 0x80 + k ≤ p.high.toNat) (bs : List UInt8) :
    units (some p) (UInt8.ofNat (0x80 + k) :: bs) =
      some (Char.ofNat (p.bits * 64 + k)) :: units none bs := by
  rw [units, if_pos ((inRange_iff hk).2 hrange), hmore, toNat_ofNat_of_lt (by omega),
    Nat.add_sub_cancel_left]

/-- A byte of a character that is owed more. -/
theorem units_more {p : Partial} {k more : Nat} (hk : k < 64) (hmore : p.more = more + 1)
    (hrange : p.low.toNat ≤ 0x80 + k ∧ 0x80 + k ≤ p.high.toNat) (bs : List UInt8) :
    units (some p) (UInt8.ofNat (0x80 + k) :: bs) =
      units (some ⟨p.bits * 64 + k, more, 0x80, 0xBF⟩) bs := by
  rw [units, if_pos ((inRange_iff hk).2 hrange), hmore, toNat_ofNat_of_lt (by omega),
    Nat.add_sub_cancel_left]

/-- A lead byte opens a character that the bytes after it go on with. -/
theorem units_opens {b : UInt8} {p : Partial} (h : lead b = .opens p) (bs : List UInt8) :
    units none (b :: bs) = units (some p) bs := by
  simp [units, h]

/-! ## First bytes -/

section lead

variable {n : Nat}

/-- The lead byte of a character of two bytes opens it with the bits that it holds. -/
theorem lead_two (h1 : 0x80 ≤ n) (h2 : n < 0x800) :
    lead (UInt8.ofNat (0xC0 + n / 64)) = .opens ⟨n / 64, 0, 0x80, 0xBF⟩ := by
  simp only [lead, toNat_ofNat_of_lt (show 0xC0 + n / 64 < 256 by omega)]
  rw [if_neg (by omega), if_neg (by omega), if_pos (by omega), Nat.add_sub_cancel_left]

/-- A first byte of three asks for a second one that excludes overlong forms and
surrogates. -/
theorem lead_three (h1 : 0x800 ≤ n) (h2 : n < 0x10000) (hvalid : n < 0xD800 ∨ 0xDFFF < n) :
    ∃ low high, lead (UInt8.ofNat (0xE0 + n / 4096)) = .opens ⟨n / 4096, 1, low, high⟩ ∧
      low.toNat ≤ 0x80 + n / 64 % 64 ∧ 0x80 + n / 64 % 64 ≤ high.toNat := by
  simp only [lead, toNat_ofNat_of_lt (show 0xE0 + n / 4096 < 256 by omega)]
  rw [if_neg (by omega), if_neg (by omega), if_neg (by omega)]
  by_cases hfirst : n / 4096 = 0
  · rw [if_pos (by omega), hfirst]
    exact ⟨_, _, rfl, by simp; omega, by simp; omega⟩
  · rw [if_neg (by omega)]
    by_cases hsurrogate : n / 4096 = 13
    · rw [if_pos (by omega), hsurrogate]
      exact ⟨_, _, rfl, by simp, by simp; omega⟩
    · rw [if_neg (by omega), if_pos (by omega), Nat.add_sub_cancel_left]
      exact ⟨_, _, rfl, by simp, by simp; omega⟩

/-- A first byte of four asks for a second one that excludes overlong forms and numbers
that are too large. -/
theorem lead_four (h1 : 0x10000 ≤ n) (h2 : n < 0x110000) :
    ∃ low high, lead (UInt8.ofNat (0xF0 + n / 262144)) = .opens ⟨n / 262144, 2, low, high⟩ ∧
      low.toNat ≤ 0x80 + n / 4096 % 64 ∧ 0x80 + n / 4096 % 64 ≤ high.toNat := by
  simp only [lead, toNat_ofNat_of_lt (show 0xF0 + n / 262144 < 256 by omega)]
  rw [if_neg (by omega), if_neg (by omega), if_neg (by omega), if_neg (by omega),
    if_neg (by omega), if_neg (by omega)]
  by_cases hfirst : n / 262144 = 0
  · rw [if_pos (by omega), hfirst]
    exact ⟨_, _, rfl, by simp; omega, by simp; omega⟩
  · rw [if_neg (by omega)]
    by_cases hlast : n / 262144 = 4
    · rw [if_neg (by omega), if_pos (by omega), hlast]
      exact ⟨_, _, rfl, by simp, by simp; omega⟩
    · rw [if_pos (by omega), Nat.add_sub_cancel_left]
      exact ⟨_, _, rfl, by simp, by simp; omega⟩

end lead

/-! ## Texts -/

/-- The machine reads an encoded character back, whatever follows it. -/
theorem units_encodeChar (c : Char) (bs : List UInt8) :
    units none (encodeChar c ++ bs) = some c :: units none bs := by
  have hvalid : c.toNat < 0xD800 ∨ (0xDFFF < c.toNat ∧ c.toNat < 0x110000) := c.valid
  have hc : Char.ofNat c.toNat = c := Char.ofNat_toNat c
  unfold encodeChar
  generalize c.toNat = n at hvalid hc
  dsimp only
  split_ifs with h1 h2 h3
  · have hlead : lead (UInt8.ofNat n) = .whole c := by
      simp [lead, toNat_ofNat_of_lt (show n < 256 by omega), h1, hc]
    simp [units, hlead]
  · simp only [List.cons_append, List.nil_append]
    rw [units_opens (lead_two (by omega) h2),
      units_last (by omega) rfl ⟨by simp, by simp; omega⟩]
    simp only [show n / 64 * 64 + n % 64 = n by omega, hc]
  · obtain ⟨low, high, hlead, hrange⟩ :=
      lead_three (n := n) (by omega) h3 (by omega)
    simp only [List.cons_append, List.nil_append]
    rw [units_opens hlead, units_more (by omega) rfl hrange,
      units_last (by omega) rfl ⟨by simp, by simp; omega⟩]
    simp only [show (n / 4096 * 64 + n / 64 % 64) * 64 + n % 64 = n by omega, hc]
  · obtain ⟨low, high, hlead, hrange⟩ := lead_four (n := n) (by omega) (by omega)
    simp only [List.cons_append, List.nil_append]
    rw [units_opens hlead, units_more (by omega) rfl hrange,
      units_more (by omega) rfl ⟨by simp, by simp; omega⟩,
      units_last (by omega) rfl ⟨by simp, by simp; omega⟩]
    simp only [show ((n / 262144 * 64 + n / 4096 % 64) * 64 + n / 64 % 64) * 64 + n % 64 = n by
      omega, hc]

/-- Texts are encoded one after the other. -/
@[simp]
theorem encode_append (cs ds : List Char) : encode (cs ++ ds) = encode cs ++ encode ds :=
  List.flatMap_append

/-- The units of an encoded text are its characters. -/
theorem units_encode (cs : List Char) : units none (encode cs) = cs.map some := by
  induction cs with
  | nil => simp [encode, units]
  | cons c cs ih => rw [encode, List.flatMap_cons, units_encodeChar, ← encode, ih, List.map_cons]

/-- Characters that were all decoded are all the characters. -/
theorem allChars_map_some (cs : List Char) : allChars (cs.map some) = some cs := by
  induction cs with
  | nil => rfl
  | cons c cs ih => simp [allChars, ih]

/-- The strict reading gives an encoded text back. -/
theorem decode?_encode (cs : List Char) : decode? (encode cs) = some cs := by
  rw [decode?, units_encode, allChars_map_some]

/-- The reading with replacement gives an encoded text back. -/
theorem decodeLossy_encode (cs : List Char) : decodeLossy (encode cs) = cs := by
  simp [decodeLossy, units_encode, Function.comp_def]

/-! ## Strictly and with replacement -/

/-- Where all units are characters, the units are those characters. -/
theorem map_some_of_allChars {us : List (Option Char)} {cs : List Char}
    (h : allChars us = some cs) : us = cs.map some := by
  induction us generalizing cs with
  | nil =>
    cases h
    rfl
  | cons u us ih =>
    cases u with
    | none => cases h
    | some c =>
      obtain ⟨ds, hds, rfl⟩ := Option.map_eq_some_iff.1 h
      rw [ih hds, List.map_cons]

/-- Where not all units are characters, one is not. -/
theorem none_mem_of_allChars {us : List (Option Char)} (h : allChars us = none) : none ∈ us := by
  induction us with
  | nil => cases h
  | cons u us ih =>
    cases u with
    | none => exact List.mem_cons_self
    | some c => exact List.mem_cons_of_mem _ (ih (Option.map_eq_none_iff.1 h))

/-- Nothing is replaced in bytes that are text. -/
theorem decodeLossy_of_decode? {bs : List UInt8} {cs : List Char} (h : decode? bs = some cs) :
    decodeLossy bs = cs := by
  rw [decodeLossy, map_some_of_allChars h]
  simp [Function.comp_def]

/-- Something is replaced in bytes that are no text. -/
theorem mem_decodeLossy {bs : List UInt8} (h : decode? bs = none) :
    Char.ofNat 0xFFFD ∈ decodeLossy bs :=
  List.mem_map.2 ⟨none, none_mem_of_allChars h, rfl⟩

/-! ## Only encoded texts -/

/-- The bytes that start a longer character, and what they ask for. -/
theorem lead_eq_opens {b : UInt8} {p : Partial} (h : lead b = .opens p) :
    (p = ⟨b.toNat - 0xC0, 0, 0x80, 0xBF⟩ ∧ 0xC2 ≤ b.toNat ∧ b.toNat < 0xE0) ∨
    (∃ low high, p = ⟨b.toNat - 0xE0, 1, low, high⟩ ∧ 0xE0 ≤ b.toNat ∧ b.toNat < 0xF0 ∧
      0x80 ≤ low.toNat ∧ high.toNat ≤ 0xBF ∧ (b.toNat = 0xE0 → 0xA0 ≤ low.toNat) ∧
      (b.toNat = 0xED → high.toNat ≤ 0x9F)) ∨
    (∃ low high, p = ⟨b.toNat - 0xF0, 2, low, high⟩ ∧ 0xF0 ≤ b.toNat ∧ b.toNat ≤ 0xF4 ∧
      0x80 ≤ low.toNat ∧ high.toNat ≤ 0xBF ∧ (b.toNat = 0xF0 → 0x90 ≤ low.toNat) ∧
      (b.toNat = 0xF4 → high.toNat ≤ 0x8F)) := by
  unfold lead at h
  dsimp only at h
  split_ifs at h with h1 h2 h3 h4 h5 h6 h7 h8 h9
  all_goals injection h with h
  all_goals subst h
  · exact .inl ⟨rfl, by omega, by omega⟩
  · exact .inr (.inl ⟨0xA0, 0xBF, by simp [h4], by omega, by omega, by decide, by decide,
      fun _ => by decide, fun h => by omega⟩)
  · exact .inr (.inl ⟨0x80, 0x9F, by simp [h5], by omega, by omega, by decide, by decide,
      fun h => by omega, fun _ => by decide⟩)
  · exact .inr (.inl ⟨0x80, 0xBF, rfl, by omega, by omega, by decide, by decide,
      fun h => by omega, fun h => by omega⟩)
  · exact .inr (.inr ⟨0x90, 0xBF, by simp [h7], by omega, by omega, by decide, by decide,
      fun _ => by decide, fun h => by omega⟩)
  · exact .inr (.inr ⟨0x80, 0xBF, rfl, by omega, by omega, by decide, by decide,
      fun h => by omega, fun h => by omega⟩)
  · exact .inr (.inr ⟨0x80, 0x8F, by simp [h9], by omega, by omega, by decide, by decide,
      fun h => by omega, fun _ => by decide⟩)

/-- A character that is owed one byte is read strictly only if that byte comes. -/
theorem allChars_last {p : Partial} {bs : List UInt8} {cs : List Char} (hmore : p.more = 0)
    (h : allChars (units (some p) bs) = some cs) :
    ∃ b rest ds, bs = b :: rest ∧ (p.low.toNat ≤ b.toNat ∧ b.toNat ≤ p.high.toNat) ∧
      cs = Char.ofNat (p.bits * 64 + (b.toNat - 0x80)) :: ds ∧ decode? rest = some ds := by
  cases bs with
  | nil => cases h
  | cons b rest =>
    rw [units] at h
    split_ifs at h with hrange
    · rw [hmore] at h
      obtain ⟨ds, hds, rfl⟩ := Option.map_eq_some_iff.1 h
      exact ⟨b, rest, ds, rfl, hrange, rfl, hds⟩
    · split at h <;> cases h

/-- A character that is open and comes out well goes on with a byte in its range. -/
theorem allChars_more {p : Partial} {more : Nat} {bs : List UInt8} {cs : List Char}
    (hmore : p.more = more + 1) (h : allChars (units (some p) bs) = some cs) :
    ∃ b rest, bs = b :: rest ∧ (p.low.toNat ≤ b.toNat ∧ b.toNat ≤ p.high.toNat) ∧
      allChars (units (some ⟨p.bits * 64 + (b.toNat - 0x80), more, 0x80, 0xBF⟩) rest) =
        some cs := by
  cases bs with
  | nil => cases h
  | cons b rest =>
    rw [units] at h
    split_ifs at h with hrange
    · rw [hmore] at h
      exact ⟨b, rest, rfl, hrange, h⟩
    · split at h <;> cases h

section encodeChar

variable {b b1 b2 b3 : UInt8}

/-- A number that is no surrogate is the number of its character. -/
theorem toNat_ofNat_of_valid {n : Nat} (h : n < 0xD800 ∨ 0xDFFF < n ∧ n < 0x110000) :
    (Char.ofNat n).toNat = n := by
  rw [Char.toNat_ofNat, if_pos]
  exact h

/-- A byte is the one made of its number. -/
theorem eq_ofNat {n : Nat} (h : b.toNat = n) : b = UInt8.ofNat n := by
  rw [← h, UInt8.ofNat_toNat]

/-- A byte below 128 is the encoding of its own character. -/
theorem encodeChar_one (h : b.toNat < 0x80) : encodeChar (Char.ofNat b.toNat) = [b] := by
  unfold encodeChar
  rw [toNat_ofNat_of_valid (by omega)]
  simp [h]

/-- The character that two bytes make is written as these bytes. -/
theorem encodeChar_two (h : 0xC2 ≤ b.toNat ∧ b.toNat < 0xE0)
    (h1 : 0x80 ≤ b1.toNat ∧ b1.toNat ≤ 0xBF) :
    encodeChar (Char.ofNat ((b.toNat - 0xC0) * 64 + (b1.toNat - 0x80))) = [b, b1] := by
  unfold encodeChar
  rw [toNat_ofNat_of_valid (by omega)]
  dsimp only
  rw [if_neg (by omega), if_pos (by omega), ← eq_ofNat (b := b) (by omega),
    ← eq_ofNat (b := b1) (by omega)]

/-- The character that three bytes make, if it is neither overlong nor a surrogate. -/
theorem encodeChar_three (h : 0xE0 ≤ b.toNat ∧ b.toNat < 0xF0)
    (h1 : 0x80 ≤ b1.toNat ∧ b1.toNat ≤ 0xBF) (h2 : 0x80 ≤ b2.toNat ∧ b2.toNat ≤ 0xBF)
    (hfirst : b.toNat = 0xE0 → 0xA0 ≤ b1.toNat) (hlast : b.toNat = 0xED → b1.toNat ≤ 0x9F) :
    encodeChar (Char.ofNat (((b.toNat - 0xE0) * 64 + (b1.toNat - 0x80)) * 64 +
      (b2.toNat - 0x80))) = [b, b1, b2] := by
  unfold encodeChar
  rw [toNat_ofNat_of_valid (by omega)]
  dsimp only
  rw [if_neg (by omega), if_neg (by omega), if_pos (by omega), ← eq_ofNat (b := b) (by omega),
    ← eq_ofNat (b := b1) (by omega), ← eq_ofNat (b := b2) (by omega)]

/-- The character that four bytes make, if it is neither overlong nor too large. -/
theorem encodeChar_four (h : 0xF0 ≤ b.toNat ∧ b.toNat ≤ 0xF4)
    (h1 : 0x80 ≤ b1.toNat ∧ b1.toNat ≤ 0xBF) (h2 : 0x80 ≤ b2.toNat ∧ b2.toNat ≤ 0xBF)
    (h3 : 0x80 ≤ b3.toNat ∧ b3.toNat ≤ 0xBF) (hfirst : b.toNat = 0xF0 → 0x90 ≤ b1.toNat)
    (hlast : b.toNat = 0xF4 → b1.toNat ≤ 0x8F) :
    encodeChar (Char.ofNat ((((b.toNat - 0xF0) * 64 + (b1.toNat - 0x80)) * 64 +
      (b2.toNat - 0x80)) * 64 + (b3.toNat - 0x80))) = [b, b1, b2, b3] := by
  unfold encodeChar
  rw [toNat_ofNat_of_valid (by omega)]
  dsimp only
  rw [if_neg (by omega), if_neg (by omega), if_neg (by omega), ← eq_ofNat (b := b) (by omega),
    ← eq_ofNat (b := b1) (by omega), ← eq_ofNat (b := b2) (by omega),
    ← eq_ofNat (b := b3) (by omega)]

end encodeChar

/-- What is read strictly begins with the bytes of its first character. -/
theorem exists_encodeChar {b : UInt8} {bs : List UInt8} {cs : List Char}
    (h : decode? (b :: bs) = some cs) :
    ∃ c rest ds, b :: bs = encodeChar c ++ rest ∧ cs = c :: ds ∧ decode? rest = some ds := by
  rw [decode?, units] at h
  cases hlead : lead b with
  | bad =>
    rw [hlead] at h
    cases h
  | whole c =>
    rw [hlead] at h
    obtain ⟨ds, hds, rfl⟩ := Option.map_eq_some_iff.1 h
    unfold lead at hlead
    dsimp only at hlead
    split_ifs at hlead with hascii
    obtain rfl := Lead.whole.inj hlead
    exact ⟨_, bs, ds, by rw [encodeChar_one hascii]; rfl, rfl, hds⟩
  | opens p =>
    rw [hlead] at h
    obtain ⟨rfl, h1, h2⟩ | ⟨low, high, rfl, h1, h2, hlow, hhigh, hfirst, hlast⟩ |
      ⟨low, high, rfl, h1, h2, hlow, hhigh, hfirst, hlast⟩ := lead_eq_opens hlead
    · obtain ⟨b1, rest, ds, rfl, hrange, rfl, hds⟩ := allChars_last rfl h
      exact ⟨_, rest, ds, by rw [encodeChar_two ⟨h1, h2⟩ hrange]; rfl, rfl, hds⟩
    -- the narrower range of the second byte keeps out overlong spellings and surrogates
    · obtain ⟨b1, bs1, rfl, ⟨hl1, hh1⟩, h⟩ := allChars_more rfl h
      obtain ⟨b2, rest, ds, rfl, hrange, rfl, hds⟩ := allChars_last rfl h
      have hchar := encodeChar_three ⟨h1, h2⟩ ⟨hlow.trans hl1, hh1.trans hhigh⟩ hrange
        (fun he => (hfirst he).trans hl1) (fun he => hh1.trans (hlast he))
      exact ⟨_, rest, ds, by rw [hchar]; rfl, rfl, hds⟩
    · obtain ⟨b1, bs1, rfl, ⟨hl1, hh1⟩, h⟩ := allChars_more rfl h
      obtain ⟨b2, bs2, rfl, hrange2, h⟩ := allChars_more rfl h
      obtain ⟨b3, rest, ds, rfl, hrange3, rfl, hds⟩ := allChars_last rfl h
      have hchar := encodeChar_four ⟨h1, h2⟩ ⟨hlow.trans hl1, hh1.trans hhigh⟩ hrange2 hrange3
        (fun he => (hfirst he).trans hl1) (fun he => hh1.trans (hlast he))
      exact ⟨_, rest, ds, by rw [hchar]; rfl, rfl, hds⟩

/-- The strict reading accepts the bytes of texts and no others. -/
theorem decode?_eq_some_iff (bs : List UInt8) (cs : List Char) :
    decode? bs = some cs ↔ bs = encode cs := by
  refine ⟨fun h => ?_, fun h => h ▸ decode?_encode cs⟩
  induction cs generalizing bs with
  | nil =>
    cases bs with
    | nil => rfl
    | cons b bs =>
      obtain ⟨c, rest, ds, -, hcons, -⟩ := exists_encodeChar h
      cases hcons
  | cons c cs ih =>
    cases bs with
    | nil => cases h
    | cons b bs =>
      obtain ⟨c', rest, ds, hbytes, hcons, hrest⟩ := exists_encodeChar h
      obtain ⟨rfl, rfl⟩ := List.cons.inj hcons
      rw [hbytes, ih rest hrest]
      rfl

/-! ## Line feeds -/

/-- The byte of a line feed stands for the line feed only. -/
theorem mem_encodeChar_iff (c : Char) : 10 ∈ encodeChar c ↔ c = '\n' := by
  have hvalid : c.toNat < 0xD800 ∨ (0xDFFF < c.toNat ∧ c.toNat < 0x110000) := c.valid
  have hc : c = '\n' ↔ c.toNat = 10 := by
    rw [← Char.toNat_inj]
    rfl
  have hbyte : ∀ m : Nat, m < 256 → ((10 : UInt8) = UInt8.ofNat m ↔ 10 = m) := by
    intro m hm
    rw [← UInt8.toNat_inj, toNat_ofNat_of_lt hm]
    rfl
  rw [hc]
  unfold encodeChar
  generalize c.toNat = n at hvalid
  dsimp only
  split_ifs with h1 h2 h3
  · rw [List.mem_singleton, hbyte n (by omega), eq_comm]
  · simp only [List.mem_cons, List.not_mem_nil, or_false]
    rw [hbyte _ (by omega), hbyte _ (by omega)]
    omega
  · simp only [List.mem_cons, List.not_mem_nil, or_false]
    rw [hbyte _ (by omega), hbyte _ (by omega), hbyte _ (by omega)]
    omega
  · simp only [List.mem_cons, List.not_mem_nil, or_false]
    rw [hbyte _ (by omega), hbyte _ (by omega), hbyte _ (by omega), hbyte _ (by omega)]
    omega

/-- The byte of a line feed is in an encoded text only where the line feed is in the
text. -/
theorem mem_encode_iff (cs : List Char) : 10 ∈ encode cs ↔ '\n' ∈ cs := by
  simp [encode, mem_encodeChar_iff]

/-! ## Places between characters -/

/-- The bytes of a text are counted from its first character on. -/
theorem utf8ByteSize_cons (c : Char) (cs : List Char) :
    (String.ofList (c :: cs)).utf8ByteSize = c.utf8Size + (String.ofList cs).utf8ByteSize := by
  rw [String.ofList_cons, String.utf8ByteSize_append, String.utf8ByteSize_singleton]

/-- What comes after a front part begins with the byte after its last. -/
theorem fromByte?_append (cs ds : List Char) :
    fromByte? (String.ofList cs).utf8ByteSize (cs ++ ds) = some ds := by
  induction cs with
  | nil =>
    rw [String.ofList_nil, String.utf8ByteSize_empty, fromByte?, List.nil_append]
  | cons c cs ih =>
    have hpos := c.utf8Size_pos
    rw [utf8ByteSize_cons]
    obtain ⟨n, hn⟩ : ∃ n, c.utf8Size + (String.ofList cs).utf8ByteSize = n + 1 :=
      ⟨_, (Nat.succ_pred_eq_of_pos (by omega)).symm⟩
    have hrest : n + 1 - c.utf8Size = (String.ofList cs).utf8ByteSize := by omega
    rw [hn, List.cons_append, fromByte?, if_pos (by omega), hrest, ih]

end ChatGateway.Text.Utf8
