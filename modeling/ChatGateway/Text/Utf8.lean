/-!
# UTF-8, read strictly and read with replacement

A byte sequence is read by a small machine that keeps, for the character it is in,
the bits gathered so far, the number of bytes still owed and the range that the next
byte has to lie in.  The ranges after the first byte are what excludes overlong
forms, surrogates and numbers above `0x10FFFF`.

The machine gives one unit for each character and one bad unit for each maximal
prefix of a character that cannot be completed.  The strict reading accepts a
sequence without bad units; the reading with replacement puts `U+FFFD` for each.
-/

set_option autoImplicit false

namespace ChatGateway.Text.Utf8

/-- A character that is being read: the bits so far, how many bytes are owed after
the next one, and the range the next byte has to lie in. -/
structure Partial where
  bits : Nat
  more : Nat
  low : UInt8 := 0x80
  high : UInt8 := 0xBF
deriving DecidableEq, Repr

/-- What a first byte starts: a character of its own, a longer character, or nothing. -/
inductive Lead
  | whole (c : Char)
  | opens (p : Partial)
  | bad
deriving DecidableEq, Repr

/-- The reading of a first byte. -/
def lead (b : UInt8) : Lead :=
  let n := b.toNat
  if n < 0x80 then .whole (Char.ofNat n)
  else if n < 0xC2 then .bad
  else if n < 0xE0 then .opens ⟨n - 0xC0, 0, 0x80, 0xBF⟩
  else if n = 0xE0 then .opens ⟨0, 1, 0xA0, 0xBF⟩
  else if n = 0xED then .opens ⟨0xD, 1, 0x80, 0x9F⟩
  else if n < 0xF0 then .opens ⟨n - 0xE0, 1, 0x80, 0xBF⟩
  else if n = 0xF0 then .opens ⟨0, 2, 0x90, 0xBF⟩
  else if n < 0xF4 then .opens ⟨n - 0xF0, 2, 0x80, 0xBF⟩
  else if n = 0xF4 then .opens ⟨4, 2, 0x80, 0x8F⟩
  else .bad

/-- The units of a byte sequence, read from within the character `p` or from the start
of one: `some c` for a character, `none` for a maximal bad prefix. -/
def units : Option Partial → List UInt8 → List (Option Char)
  | none, [] => []
  | some _, [] => [none]
  | none, b :: bs =>
    match lead b with
    | .whole c => some c :: units none bs
    | .opens p => units (some p) bs
    | .bad => none :: units none bs
  | some p, b :: bs =>
    if p.low ≤ b ∧ b ≤ p.high then
      let bits := p.bits * 64 + (b.toNat - 0x80)
      match p.more with
      | 0 => some (Char.ofNat bits) :: units none bs
      | more + 1 => units (some ⟨bits, more, 0x80, 0xBF⟩) bs
    else
      match lead b with
      | .whole c => none :: some c :: units none bs
      | .opens q => none :: units (some q) bs
      | .bad => none :: none :: units none bs

/-- The characters of a list of units, if none of them is bad. -/
def allChars : List (Option Char) → Option (List Char)
  | [] => some []
  | none :: _ => none
  | some c :: us => (allChars us).map (c :: ·)

/-- The strict reading. -/
def decode? (bs : List UInt8) : Option (List Char) :=
  allChars (units none bs)

/-- The reading that puts `U+FFFD` for each maximal bad prefix. -/
def decodeLossy (bs : List UInt8) : List Char :=
  (units none bs).map fun u => u.getD (Char.ofNat 0xFFFD)

/-- The bytes of a character. -/
def encodeChar (c : Char) : List UInt8 :=
  let n := c.toNat
  if n < 0x80 then [UInt8.ofNat n]
  else if n < 0x800 then [UInt8.ofNat (0xC0 + n / 64), UInt8.ofNat (0x80 + n % 64)]
  else if n < 0x10000 then
    [UInt8.ofNat (0xE0 + n / 4096), UInt8.ofNat (0x80 + n / 64 % 64),
      UInt8.ofNat (0x80 + n % 64)]
  else
    [UInt8.ofNat (0xF0 + n / 262144), UInt8.ofNat (0x80 + n / 4096 % 64),
      UInt8.ofNat (0x80 + n / 64 % 64), UInt8.ofNat (0x80 + n % 64)]

/-- The bytes of a list of characters. -/
def encode (cs : List Char) : List UInt8 :=
  cs.flatMap encodeChar

/-- The number of bytes of a list of characters. -/
def byteLength (cs : List Char) : Nat :=
  cs.foldl (fun n c => n + c.utf8Size) 0

/-- The characters from the byte `n` on, if one starts there or the text ends there. -/
def fromByte? : Nat → List Char → Option (List Char)
  | 0, cs => some cs
  | _ + 1, [] => none
  | n + 1, c :: cs => if c.utf8Size ≤ n + 1 then fromByte? (n + 1 - c.utf8Size) cs else none

example : decode? [0x61, 0xC3, 0xA9] = some ['a', 'é'] := by decide
example : decode? [0xED, 0xA0, 0x80] = none := by decide
example : decodeLossy [0x61, 0xE2, 0x82, 0x62, 0xFF, 0x63, 0xF0, 0x9F, 0x64] =
    ['a', '\ufffd', 'b', '\ufffd', 'c', '\ufffd', 'd'] := by decide
example : encode ['é', '日', '😀'] =
    [0xC3, 0xA9, 0xE6, 0x97, 0xA5, 0xF0, 0x9F, 0x98, 0x80] := by decide

end ChatGateway.Text.Utf8
