import ChatGateway.Decimal.Nearest
import ChatGateway.Time.Instant
import ChatGateway.Toml.Tree

/-!
# Numbers, truth values and dates of TOML

A value that is neither a text nor in brackets is a run of letters, digits, signs,
points and colons.  Digits may be grouped by single underscores.
-/

set_option autoImplicit false

namespace ChatGateway.Toml

/-- Whether `c` is a decimal digit. -/
def isDecimal (c : Char) : Bool :=
  '0' ≤ c && c ≤ '9'

/-- The value of `c` as a digit, ten and more for letters. -/
def digitValue (c : Char) : Nat :=
  if isDecimal c then c.toNat - 48
  else if 'a' ≤ c ∧ c ≤ 'z' then c.toNat - 87
  else if 'A' ≤ c ∧ c ≤ 'Z' then c.toNat - 55
  else 99

/-- The number that digits with single underscores between them denote. -/
def readDigits (base : Nat) (value : Nat) : List Char → Option Nat
  | [] => none
  | [c] => if digitValue c < base then some (value * base + digitValue c) else none
  | c :: '_' :: rest =>
    if digitValue c < base then readDigits base (value * base + digitValue c) rest else none
  | c :: rest =>
    if digitValue c < base then readDigits base (value * base + digitValue c) rest else none

/-- A decimal number without leading zeros. -/
def readDecimal (cs : List Char) : Option Nat :=
  match cs with
  | '0' :: _ :: _ => none
  | cs => readDigits 10 0 cs

/-- The sign at the front of `cs`, if there is one, and what follows it. -/
def splitSign : List Char → Bool × List Char
  | '-' :: rest => (true, rest)
  | '+' :: rest => (false, rest)
  | cs => (false, cs)

/-- An integer; one of more than 128 bits is refused. -/
def readInteger (cs : List Char) : Option Int :=
  let value : Option Int :=
    match cs with
    | '0' :: 'x' :: rest => (readDigits 16 0 rest).map Int.ofNat
    | '0' :: 'o' :: rest => (readDigits 8 0 rest).map Int.ofNat
    | '0' :: 'b' :: rest => (readDigits 2 0 rest).map Int.ofNat
    | cs =>
      let (negative, digits) := splitSign cs
      (readDecimal digits).map fun n => if negative then -Int.ofNat n else Int.ofNat n
  value.filter fun n => -Int.ofNat (Nat.pow 2 127) ≤ n && n < Int.ofNat (Nat.pow 2 128)

/-- The power of ten that an exponent with its letter spells; nothing spells zero. -/
def readExponent : List Char → Option Int
  | [] => some 0
  | e :: rest =>
    if e = 'e' ∨ e = 'E' then
      let (negative, digits) := splitSign rest
      (readDigits 10 0 digits).map fun n => if negative then -Int.ofNat n else Int.ofNat n
    else none

/-- Whether `c` can stand in the digits of a number. -/
def isDigitOrMark (c : Char) : Bool :=
  isDecimal c || c = '_'

/-- The digits and the power of ten of a floating-point number without its sign.  It has
a fraction, an exponent, or both. -/
def readFraction (cs : List Char) : Option (Nat × Int) := do
  let whole ← readDecimal (cs.takeWhile isDigitOrMark)
  match cs.dropWhile isDigitOrMark with
  | [] => none
  | '.' :: rest =>
    let fraction := rest.takeWhile isDigitOrMark
    let digits ← readDigits 10 whole fraction
    let exponent ← readExponent (rest.dropWhile isDigitOrMark)
    some (digits, exponent - Int.ofNat (fraction.filter isDecimal).length)
  | rest => (readExponent rest).map fun exponent => (whole, exponent)

/-- Whether `cs` is a floating-point number.  A decimal that is larger than every double
is none; infinity has its own word. -/
def isFloat (cs : List Char) : Bool :=
  let body := (splitSign cs).2
  body = ['i', 'n', 'f'] || body = ['n', 'a', 'n'] ||
    match readFraction body with
    | none => false
    | some (digits, exponent) => Decimal.nearest digits exponent ≠ Decimal.infinityBits

/-! ## Dates and times -/

/-- The number that exactly `n` digits at the front of `cs` denote. -/
def takeDigits (n : Nat) (cs : List Char) : Option (Nat × List Char) :=
  let ds := cs.take n
  if ds.length = n ∧ ds.all isDecimal then
    some (ds.foldl (fun v c => v * 10 + digitValue c) 0, cs.drop n)
  else none

/-- A date at the front of `cs`. -/
def takeDate (cs : List Char) : Option (List Char) := do
  let (year, cs) ← takeDigits 4 cs
  let '-' :: cs := cs | none
  let (month, cs) ← takeDigits 2 cs
  let '-' :: cs := cs | none
  let (day, cs) ← takeDigits 2 cs
  if (Date.mk year month day).isValid then some cs else none

/-- The seconds of a time with their fraction, if they are given. -/
def takeSeconds : List Char → Option (List Char)
  | ':' :: cs =>
    match takeDigits 2 cs with
    | none => none
    | some (second, cs) =>
      if 60 < second then none
      else
        match cs with
        | '.' :: cs =>
          match cs with
          | c :: _ => if isDecimal c then some (cs.dropWhile isDecimal) else none
          | [] => none
        | cs => some cs
  | cs => some cs

/-- A time at the front of `cs`. -/
def takeTime (cs : List Char) : Option (List Char) := do
  let (hour, cs) ← takeDigits 2 cs
  let ':' :: cs := cs | none
  let (minute, cs) ← takeDigits 2 cs
  if hour ≤ 23 ∧ minute ≤ 59 then takeSeconds cs else none

/-- Whether `cs` is an offset from UTC, or nothing. -/
def isOffset : List Char → Bool
  | [] => true
  | ['Z'] => true
  | ['z'] => true
  | c :: rest =>
    if c = '+' ∨ c = '-' then
      match takeDigits 2 rest with
      | some (hour, ':' :: rest) =>
        match takeDigits 2 rest with
        | some (minute, []) => hour ≤ 23 && minute ≤ 59
        | _ => false
      | _ => false
    else false

/-- Whether `cs` is a date, a time or both. -/
def isMoment (cs : List Char) : Bool :=
  match takeDate cs with
  | some [] => true
  | some (c :: rest) =>
    (c = 'T' || c = 't' || c = ' ') &&
      match takeTime rest with
      | some rest => isOffset rest
      | none => false
  | none => takeTime cs = some []

/-- Whether `c` can stand in a value without quotes. -/
def isScalarChar (c : Char) : Bool :=
  c.isAlphanum || c = '+' || c = '-' || c = '_' || c = '.' || c = ':'

/-- The value that a run of characters denotes. -/
def Node.ofSpelling (cs : List Char) : Option Node :=
  if cs = "true".toList then some (.boolean true)
  else if cs = "false".toList then some (.boolean false)
  else
    match readInteger cs with
    | some n => some (.integer n)
    | none =>
      if isFloat cs then some (.float (String.ofList cs))
      else if isMoment cs then some (.moment (String.ofList cs))
      else none

/-- The characters of a value without quotes at the front of `cs`, and the rest.  A date
and its time may be divided by a space. -/
def splitScalar (cs : List Char) : List Char × List Char :=
  let token := cs.takeWhile isScalarChar
  match takeDate token, cs.dropWhile isScalarChar with
  | some [], ' ' :: rest =>
    match rest with
    | c :: _ =>
      if isDecimal c then (token ++ ' ' :: rest.takeWhile isScalarChar, rest.dropWhile isScalarChar)
      else (token, ' ' :: rest)
    | [] => (token, ' ' :: rest)
  | _, rest => (token, rest)

example : readInteger "1_000".toList = some 1000 ∧ readInteger "0x1F".toList = some 31 := by
  decide +kernel
example : readInteger "05".toList = none ∧ readInteger "-0".toList = some 0 := by decide +kernel
example : isFloat "-1.5e+10".toList = true ∧ isFloat "1.".toList = false := by decide +kernel
example : isFloat "1e309".toList = false ∧ isFloat "1_0.0_0".toList = true := by decide +kernel
example : isMoment "2026-02-28T07:32:00.5-08:00".toList = true := by decide +kernel
example : isMoment "2026-02-29".toList = false := by decide +kernel

end ChatGateway.Toml
