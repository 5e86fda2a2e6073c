import ChatGateway.Json.Fault

/-!
# The tokens of JSON

A reader takes what is left of the text and gives a value with what is left after it,
or a fault.  This module reads blanks, words, texts and numbers, and decides what
follows inside a list or an object.

A number whose digits do not fit 64 bits keeps the leading digits that do; the power of
ten is applied by one multiplication or division of doubles, so that the last digit of
a long number may differ from the nearest double.
-/

set_option autoImplicit false

namespace ChatGateway

/-- A reader of a value of type `α` at the front of a text. -/
abbrev Reader (α : Type) := List Char → Except Fault (α × List Char)

namespace Json

/-- `cs` without the blanks of JSON at its front. -/
def skipBlank : List Char → List Char
  | [] => []
  | c :: cs => if c = ' ' ∨ c = '\n' ∨ c = '\t' ∨ c = '\r' then skipBlank cs else c :: cs

/-- Reads the rest of a word that its first letter announced. -/
def readWord : List Char → List Char → Except Fault (List Char)
  | [], cs => .ok cs
  | _ :: _, [] => .error (.here .endInValue [])
  | w :: ws, c :: cs =>
    if c = w then readWord ws cs else .error (.past .expectedWord (c :: cs))

/-! ## Texts -/

/-- The value of a hexadecimal digit. -/
def hexValue? (c : Char) : Option Nat :=
  if '0' ≤ c ∧ c ≤ '9' then some (c.toNat - 48)
  else if 'a' ≤ c ∧ c ≤ 'f' then some (c.toNat - 87)
  else if 'A' ≤ c ∧ c ≤ 'F' then some (c.toNat - 55)
  else none

/-- The four hexadecimal digits of an escape.  Four bytes are taken before they are
looked at. -/
def readHex4 (cs : List Char) : Except Fault (Nat × List Char) :=
  let bytes := Text.Utf8.byteLength cs
  if bytes < 4 then .error (.here .endInText [])
  else
    let broken : Except Fault (Nat × List Char) :=
      .error ⟨.invalidEscape, .left (bytes - 4)⟩
    match cs with
    | a :: b :: c :: d :: rest =>
      match hexValue? a, hexValue? b, hexValue? c, hexValue? d with
      | some x, some y, some z, some w => .ok (((x * 16 + y) * 16 + z) * 16 + w, rest)
      | _, _, _, _ => broken
    | _ => broken

/-- The character of an escape by number, after its `u`.  A number of the upper
surrogate range needs a second escape with a number of the lower range; neither
stands alone. -/
def readUnicode (cs : List Char) : Except Fault (Char × List Char) :=
  match readHex4 cs with
  | .error f => .error f
  | .ok (n, rest) =>
    if 0xDC00 ≤ n ∧ n ≤ 0xDFFF then .error (.here .loneSurrogate rest)
    else if n < 0xD800 ∨ 0xDBFF < n then .ok (Char.ofNat n, rest)
    else
      match rest with
      | [] => .error (.here .endInText [])
      | '\\' :: rest =>
        match rest with
        | [] => .error (.here .endInText [])
        | 'u' :: rest =>
          match readHex4 rest with
          | .error f => .error f
          | .ok (m, rest) =>
            if m < 0xDC00 ∨ 0xDFFF < m then .error (.here .loneSurrogate rest)
            else .ok (Char.ofNat ((n - 0xD800) * 1024 + (m - 0xDC00) + 0x10000), rest)
        | rest => .error (.past .brokenEscape rest)
      | rest => .error (.past .brokenEscape rest)

/-- The character that an escape of one letter stands for. -/
def escaped? : Char → Option Char
  | '"' => some '"'
  | '\\' => some '\\'
  | '/' => some '/'
  | 'b' => some '\x08'
  | 'f' => some '\x0c'
  | 'n' => some '\n'
  | 'r' => some '\r'
  | 't' => some '\t'
  | _ => none

/-- One character of a text: `none` for the closing quote. -/
def readTextChar : List Char → Except Fault (Option Char × List Char)
  | [] => .error (.here .endInText [])
  | '"' :: rest => .ok (none, rest)
  | '\\' :: rest =>
    match rest with
    | [] => .error (.here .endInText [])
    | 'u' :: rest =>
      match readUnicode rest with
      | .error f => .error f
      | .ok (c, rest) => .ok (some c, rest)
    | e :: rest' =>
      match escaped? e with
      | some c => .ok (some c, rest')
      | none => .error (.past .invalidEscape rest)
  | c :: rest =>
    if c.toNat < 0x20 then .error (.here .controlCharacter rest)
    else .ok (some c, rest)

/-- The characters of a text up to its closing quote; the first argument bounds their
number, the second holds those read so far, last first. -/
def readChars : Nat → List Char → List Char → Except Fault (List Char × List Char)
  | 0, _, cs => .error (.here .endInText cs)
  | fuel + 1, done, cs =>
    match readTextChar cs with
    | .error f => .error f
    | .ok (none, rest) => .ok (done.reverse, rest)
    | .ok (some c, rest) => readChars fuel (c :: done) rest

/-- A text, after its opening quote. -/
def readText : Reader String := fun cs =>
  match readChars (cs.length + 1) [] cs with
  | .error f => .error f
  | .ok (text, rest) => .ok (String.ofList text, rest)

/-! ## Numbers -/

/-- Whether `c` is a decimal digit. -/
def isDigit (c : Char) : Bool :=
  '0' ≤ c && c ≤ '9'

/-- The value of a decimal digit. -/
def digitValue (c : Char) : Nat :=
  c.toNat - 48

/-- The greatest number of 64 bits. -/
def wordMax : Nat :=
  UInt64.size - 1

/-- The digits at the front of `cs` appended to `n` for as long as the result fits 64
bits.  Gives the number, how many digits were appended, and the rest, which starts
with a digit exactly when that digit no longer fits. -/
def takeDigits (n count : Nat) : List Char → Nat × Nat × List Char
  | [] => (n, count, [])
  | c :: cs =>
    if isDigit c then
      let m := n * 10 + digitValue c
      if m ≤ wordMax then takeDigits m (count + 1) cs else (n, count, c :: cs)
    else (n, count, c :: cs)

/-- Whether `cs` starts with a digit. -/
def startsWithDigit : List Char → Bool
  | [] => false
  | c :: _ => isDigit c

/-- `significand * 10 ^ exponent` as a double; `none` if it is too large.  A power
beyond `10 ^ 308` is divided away in steps; the first argument bounds their number. -/
def scaleTen : Nat → Float → Int → Option Float
  | 0, f, _ => some f
  | fuel + 1, f, exponent =>
    if exponent.natAbs ≤ 308 then
      let power := Float.ofScientific 1 false exponent.natAbs
      if 0 ≤ exponent then
        let product := f * power
        if product.isInf then none else some product
      else some (f / power)
    else if f == 0 then some f
    else if 0 ≤ exponent then none
    else scaleTen fuel (f / Float.ofScientific 1 false 308) (exponent + 308)

/-- The number `± significand * 10 ^ exponent`, at the place where `rest` is left.  Once
the power is below what five steps can divide away, the result is zero. -/
def floatOfParts (positive : Bool) (significand : Nat) (exponent : Int)
    (rest : List Char) : Except Fault (Number × List Char) :=
  match scaleTen 8 (UInt64.ofNat significand).toFloat (max exponent (-2400)) with
  | none => .error (.here .numberOutOfRange rest)
  | some f => .ok (.float (if positive then f else -f).toBits, rest)

/-- The exponent of a number after its `e`: its sign, then at least one digit. -/
def readExponent (positive : Bool) (significand : Nat) (start : Int)
    (cs : List Char) : Except Fault (Number × List Char) :=
  let (up, cs) := match cs with
    | '+' :: rest => (true, rest)
    | '-' :: rest => (false, rest)
    | rest => (true, rest)
  match cs with
  | [] => .error (.here .endInValue [])
  | c :: _ =>
    if isDigit c then readDigits up 0 cs
    else .error (.past .invalidNumber cs)
where
  /-- The digits of the exponent.  One that does not fit 31 bits makes the number zero
  or too large, whatever follows. -/
  readDigits (up : Bool) (exponent : Nat) : List Char → Except Fault (Number × List Char)
    | [] => finish up exponent []
    | c :: rest =>
      if isDigit c then
        let e := exponent * 10 + digitValue c
        if e < 2147483648 then readDigits up e rest
        else if significand ≠ 0 ∧ up then .error (.here .numberOutOfRange rest)
        else .ok (.float (if positive then (0.0 : Float) else -0.0).toBits,
          rest.dropWhile isDigit)
      else finish up exponent (c :: rest)
  /-- The number with its exponent. -/
  finish (up : Bool) (exponent : Nat) (rest : List Char) :
      Except Fault (Number × List Char) :=
    floatOfParts positive significand
      (if up then start + exponent else start - exponent) rest

/-- What may follow the digits of a fraction. -/
def afterFraction (positive : Bool) (significand : Nat) (exponent : Int) :
    List Char → Except Fault (Number × List Char)
  | 'e' :: rest => readExponent positive significand exponent rest
  | 'E' :: rest => readExponent positive significand exponent rest
  | rest => floatOfParts positive significand exponent rest

/-- The fraction of a number after its point; `start` counts the integer digits that
did not fit. -/
def readFraction (positive : Bool) (significand : Nat) (start : Nat)
    (cs : List Char) : Except Fault (Number × List Char) :=
  let (n, count, rest) := takeDigits significand 0 cs
  if startsWithDigit rest then
    afterFraction positive n (start - count) (rest.dropWhile isDigit)
  else if count = 0 then
    match rest with
    | [] => .error (.past .endInValue [])
    | _ => .error (.past .invalidNumber rest)
  else afterFraction positive n (start - count) rest

/-- What may follow the integer digits of a number that fit 64 bits. -/
def afterInteger (positive : Bool) (significand : Nat) :
    List Char → Except Fault (Number × List Char)
  | '.' :: rest => readFraction positive significand 0 rest
  | 'e' :: rest => readExponent positive significand 0 rest
  | 'E' :: rest => readExponent positive significand 0 rest
  | rest =>
    if positive then .ok (.int significand, rest)
    else if significand = 0 ∨ 9223372036854775808 < significand then
      .ok (.float (-(UInt64.ofNat significand).toFloat).toBits, rest)
    else .ok (.int (-significand), rest)

/-- What may follow the integer digits of a number of which `dropped` did not fit. -/
def afterLongInteger (positive : Bool) (significand dropped : Nat) :
    List Char → Except Fault (Number × List Char)
  | '.' :: rest => readFraction positive significand dropped rest
  | 'e' :: rest => readExponent positive significand dropped rest
  | 'E' :: rest => readExponent positive significand dropped rest
  | rest => floatOfParts positive significand dropped rest

/-- A number, after its sign. -/
def readNumber (positive : Bool) : Reader Number
  | [] => .error (.here .endInValue [])
  | c :: cs =>
    if c = '0' then
      if startsWithDigit cs then .error (.past .invalidNumber cs)
      else afterInteger positive 0 cs
    else if isDigit c then
      let (n, _, rest) := takeDigits (digitValue c) 1 cs
      if startsWithDigit rest then
        afterLongInteger positive n (rest.takeWhile isDigit).length (rest.dropWhile isDigit)
      else afterInteger positive n rest
    else .error (.past .invalidNumber (c :: cs))

/-! ## Lists and objects -/

/-- What follows inside a list or an object. -/
inductive Step
  /-- It ends; the text after the closing bracket. -/
  | close (rest : List Char)
  /-- It goes on; the text from the next item on, or after the quote of the next name. -/
  | more (rest : List Char)

/-- The next item of a list, or its end. -/
def nextItem (first : Bool) (cs : List Char) : Except Fault Step :=
  match skipBlank cs with
  | [] => .error (.past .endInList [])
  | ']' :: rest => .ok (.close rest)
  | c :: rest =>
    if first then .ok (.more (c :: rest))
    else if c = ',' then
      match skipBlank rest with
      | [] => .error (.past .endInValue [])
      | ']' :: rest => .error (.past .trailingComma (']' :: rest))
      | rest => .ok (.more rest)
    else .error (.past .expectedListComma (c :: rest))

/-- The next member of an object, or its end. -/
def nextMember (first : Bool) (cs : List Char) : Except Fault Step :=
  match skipBlank cs with
  | [] => .error (.past .endInObject [])
  | '\x7d' :: rest => .ok (.close rest)
  | c :: rest =>
    if first then
      if c = '"' then .ok (.more rest) else .error (.past .keyNotText (c :: rest))
    else if c = ',' then
      match skipBlank rest with
      | [] => .error (.past .endInValue [])
      | '"' :: rest => .ok (.more rest)
      | '\x7d' :: rest => .error (.past .trailingComma ('\x7d' :: rest))
      | rest => .error (.past .keyNotText rest)
    else .error (.past .expectedObjectComma (c :: rest))

/-- The colon between a name and its value. -/
def readColon (cs : List Char) : Except Fault (List Char) :=
  match skipBlank cs with
  | [] => .error (.past .endInObject [])
  | ':' :: rest => .ok rest
  | rest => .error (.past .expectedColon rest)

/-- The text after leaving a list, as far as that is possible. -/
def leaveList (cs : List Char) : List Char :=
  match skipBlank cs with
  | ']' :: rest => rest
  | ',' :: rest => skipBlank rest
  | rest => rest

/-- Leaves a list of which no more items are wanted. -/
def endList (cs : List Char) : Except Fault (List Char) :=
  match skipBlank cs with
  | [] => .error (.past .endInList [])
  | ']' :: rest => .ok rest
  | ',' :: rest =>
    match skipBlank rest with
    | ']' :: rest => .error (.past .trailingComma (']' :: rest))
    | rest => .error (.past .trailingCharacters rest)
  | rest => .error (.past .trailingCharacters rest)

/-- The text after leaving an object, as far as that is possible. -/
def leaveObject (cs : List Char) : List Char :=
  match skipBlank cs with
  | '\x7d' :: rest => rest
  | rest => rest

/-- Reads items until the list ends; the first argument bounds their number. -/
def readItems {α : Type} (item : Reader α) : Nat → Bool → List α → Reader (List α)
  | 0, _, _, cs => .error (.past .endInList cs)
  | fuel + 1, first, done, cs =>
    match nextItem first cs with
    | .error f => .error f
    | .ok (.close rest) => .ok (done.reverse, rest)
    | .ok (.more rest) =>
      match item rest with
      | .error f => .error f
      | .ok (x, rest) => readItems item fuel false (x :: done) rest

/-- Reads a name and its value, after the opening quote of the name. -/
def readMember {α : Type} (value : Reader α) : Reader (String × α) := fun cs =>
  match readText cs with
  | .error f => .error f
  | .ok (name, rest) =>
    match readColon rest with
    | .error f => .error f
    | .ok rest =>
      match value rest with
      | .error f => .error f
      | .ok (v, rest) => .ok ((name, v), rest)

/-- Reads members until the object ends; the first argument bounds their number. -/
def readMembers {α : Type} (value : Reader α) :
    Nat → Bool → List (String × α) → Reader (List (String × α))
  | 0, _, _, cs => .error (.past .endInObject cs)
  | fuel + 1, first, done, cs =>
    match nextMember first cs with
    | .error f => .error f
    | .ok (.close rest) => .ok (done.reverse, rest)
    | .ok (.more rest) =>
      match readMember value rest with
      | .error f => .error f
      | .ok (m, rest) => readMembers value fuel false (m :: done) rest

end Json

end ChatGateway
