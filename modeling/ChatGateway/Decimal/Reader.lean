import ChatGateway.Decimal.Nearest

/-!
# Reading numbers

A natural number is digits, which may follow a plus sign.  A real number has a sign, a
fraction or an exponent if it needs one, and denotes the double nearest to it; infinity
and what is no number have words.
-/

set_option autoImplicit false

namespace ChatGateway.Decimal

/-- The number that decimal digits denote. -/
def ofDigits (ds : List Char) : Nat :=
  ds.foldl (fun n c => n * 10 + (c.toNat - 48)) 0

/-- The natural number that a text denotes. -/
def natural? (cs : List Char) : Option Nat :=
  let ds := match cs with
    | '+' :: rest => rest
    | cs => cs
  if ds ≠ [] ∧ ds.all Char.isDigit then some (ofDigits ds) else none

/-- The integer that a text denotes. -/
def integer? : List Char → Option Int
  | '-' :: ds =>
    if ds ≠ [] ∧ ds.all Char.isDigit then some (-Int.ofNat (ofDigits ds)) else none
  | cs => (natural? cs).map Int.ofNat

/-- The power of ten that an exponent with its letter spells; nothing spells zero. -/
def exponent? : List Char → Option Int
  | [] => some 0
  | e :: rest => if e = 'e' ∨ e = 'E' then integer? rest else none

/-- The bits of what is no number. -/
def notANumberBits : UInt64 :=
  0x7FF8000000000000

/-- The bits of the double that a text without a sign denotes.  Digits may be missing on
one side of the decimal point. -/
def magnitude? (cs : List Char) : Option UInt64 :=
  let word := String.ofList (cs.map Char.toLower)
  if word = "inf" ∨ word = "infinity" then some infinityBits
  else if word = "nan" then some notANumberBits
  else
    let whole := cs.takeWhile Char.isDigit
    let (fraction, rest) := match cs.dropWhile Char.isDigit with
      | '.' :: rest => (rest.takeWhile Char.isDigit, rest.dropWhile Char.isDigit)
      | rest => ([], rest)
    if whole = [] ∧ fraction = [] then none
    else
      (exponent? rest).map fun e =>
        nearest (ofDigits (whole ++ fraction)) (e - Int.ofNat fraction.length)

/-- The bits of the double that a text denotes.  What is no number has no sign. -/
def real? : List Char → Option UInt64
  | '-' :: cs =>
    (magnitude? cs).map fun bits =>
      if bits = notANumberBits then bits else bits + 0x8000000000000000
  | '+' :: cs => magnitude? cs
  | cs => magnitude? cs

example : natural? "+007".toList = some 7 ∧ natural? "-0".toList = none := by decide +kernel
example : real? "-1.5".toList = some 0xBFF8000000000000 := by decide +kernel
example : real? ".5e1".toList = real? "5.".toList := by decide +kernel
example : real? ".".toList = none ∧ real? "1e".toList = none := by decide +kernel
example : real? "-Infinity".toList = some 0xFFF0000000000000 := by decide +kernel

end ChatGateway.Decimal
