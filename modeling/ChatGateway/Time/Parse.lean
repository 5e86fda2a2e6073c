import ChatGateway.Text.Blank
import ChatGateway.Text.Utf8
import ChatGateway.Time.Instant

/-!
# Reading instants

The accepted form is the usual date and time with an offset, read leniently: numbers
need no leading zeros, blanks may stand between the parts, a year outside four digits
needs a sign, and the offset may be `Z`, `UTC`, or hours and minutes with or without a
colon.  Lengths are counted in bytes.
-/

set_option autoImplicit false

namespace ChatGateway

/-- Why a text is no instant. -/
inductive InstantFault
  | tooShort
  | invalid
  | outOfRange
  | impossible
  | tooLong
deriving DecidableEq, Repr

/-- The words for the fault. -/
def InstantFault.message : InstantFault → String
  | .tooShort => "premature end of input"
  | .invalid => "input contains invalid characters"
  | .outOfRange => "input is out of range"
  | .impossible => "no possible date and time matching input"
  | .tooLong => "trailing input"

namespace Instant

open ChatGateway.Text (trimStartChars)

/-- The value of a decimal digit, if `c` is one. -/
def digit? (c : Char) : Option Nat :=
  if '0' ≤ c ∧ c ≤ '9' then some (c.toNat - 48) else none

/-- The digits at the front of a text, at most `width` of them, after `n`. -/
def takeNumber : Nat → Nat → List Char → Except InstantFault (Nat × List Char)
  | 0, n, cs => .ok (n, cs)
  | _ + 1, n, [] => .ok (n, [])
  | width + 1, n, c :: cs =>
    match digit? c with
    | none => .ok (n, c :: cs)
    | some d =>
      if n * 10 + d < UInt64.size / 2 then takeNumber width (n * 10 + d) cs
      else .error .outOfRange

/-- A number of at least one and at most `width` digits. -/
def readNumber (width : Nat) (cs : List Char) : Except InstantFault (Nat × List Char) :=
  match cs with
  | [] => .error .tooShort
  | c :: _ =>
    match digit? c with
    | none => .error .invalid
    | some _ => takeNumber width 0 cs

/-- A number in the range from `low` to `high`, with blanks before it. -/
def readField (width low high : Nat) (cs : List Char) :
    Except InstantFault (Nat × List Char) :=
  match readNumber width (trimStartChars cs) with
  | .error f => .error f
  | .ok (n, rest) => if low ≤ n ∧ n ≤ high then .ok (n, rest) else .error .outOfRange

/-- A year with blanks before it: four digits at most unless it has a sign. -/
def readYear (cs : List Char) : Except InstantFault (Int × List Char) :=
  let cs := trimStartChars cs
  let signed : Except InstantFault (Int × List Char) :=
    match cs with
    | '-' :: rest => (readNumber rest.length rest).map fun (n, r) => (-Int.ofNat n, r)
    | '+' :: rest => (readNumber rest.length rest).map fun (n, r) => (Int.ofNat n, r)
    | cs => (readNumber 4 cs).map fun (n, r) => (Int.ofNat n, r)
  match signed with
  | .error f => .error f
  | .ok (year, rest) =>
    if -2147483648 ≤ year ∧ year ≤ 2147483647 then .ok (year, rest)
    else .error .outOfRange

/-- The character `c`, with blanks before it. -/
def readMark (c : Char) (cs : List Char) : Except InstantFault (List Char) :=
  match trimStartChars cs with
  | [] => .error .tooShort
  | d :: rest => if d = c then .ok rest else .error .invalid

/-- The fraction of a second in nanoseconds, if there is one; digits beyond the ninth
are dropped. -/
def readFraction (cs : List Char) : Except InstantFault (Nat × List Char) :=
  match cs with
  | '.' :: rest =>
    match readNumber 9 rest with
    | .error f => .error f
    | .ok (n, after) =>
      let digits := rest.length - after.length
      .ok (n * Nat.pow 10 (9 - digits), after.dropWhile fun c => (digit? c).isSome)
  | cs => .ok (0, cs)

/-- Two digits; the reader of a number takes two bytes before it looks at them. -/
def readTwo (cs : List Char) : Except InstantFault (Nat × Nat × List Char) :=
  if Text.Utf8.byteLength cs < 2 then .error .tooShort
  else
    match cs with
    | a :: b :: rest =>
      match digit? a, digit? b with
      | some x, some y => .ok (x, y, rest)
      | _, _ => .error .invalid
    | _ => .error .invalid

/-- The hours and minutes of an offset after its sign, in seconds. -/
def readClock (cs : List Char) : Except InstantFault (Int × List Char) :=
  match readTwo cs with
  | .error f => .error f
  | .ok (h₁, h₂, rest) =>
    let rest := rest.dropWhile fun c => c = ':' || Text.isBlank c
    match readTwo rest with
    | .error f => .error f
    | .ok (m₁, m₂, rest) =>
      if 6 ≤ m₁ then .error .outOfRange
      else .ok ((h₁ * 10 + h₂) * 3600 + (m₁ * 10 + m₂) * 60, rest)

/-- The offset of a time from UTC in seconds, with blanks before it. -/
def readOffset (cs : List Char) : Except InstantFault (Int × List Char) :=
  match trimStartChars cs with
  | [] => .error .tooShort
  | c :: rest =>
    let isUtc := match rest with
      | t :: u :: _ => c.toUpper = 'U' && t.toUpper = 'T' && u.toUpper = 'C'
      | _ => false
    if isUtc then .ok (0, rest.drop 2)
    else if c = 'Z' ∨ c = 'z' then .ok (0, rest)
    else if c = '+' then readClock rest
    else if c = '-' ∨ c = '\u2212' then (readClock rest).map fun (s, r) => (-s, r)
    else .error .invalid

/-- A time as it is written: its date, its second of the day, where sixty seconds to a
minute are allowed, and its nanoseconds. -/
structure Written where
  date : Date
  hour : Nat
  minute : Nat
  second : Nat
  nanos : Nat

/-- The instant that a written time stands for, so many seconds ahead of UTC. -/
def Written.resolve (w : Written) (offset : Int) : Except InstantFault Instant :=
  if !w.date.isValid || 86400 ≤ offset.natAbs then .error .outOfRange
  else
    let leap := w.second = 60
    let second := if leap then 59 else w.second
    let seconds := w.date.toDays * 86400 +
      Int.ofNat (w.hour * 3600 + w.minute * 60 + second) - offset
    let t : Instant := ⟨seconds, if leap then w.nanos + 1000000000 else w.nanos⟩
    if t.date.isValid then .ok t else .error .impossible

/-- The date and time at the front of a text, without its offset. -/
def readLocal (cs : List Char) : Except InstantFault (Written × List Char) := do
  let (year, cs) ← readYear cs
  let cs ← readMark '-' cs
  let (month, cs) ← readField 2 1 12 cs
  let cs ← readMark '-' cs
  let (day, cs) ← readField 2 1 31 cs
  let cs ← match cs with
    | [] => throw .tooShort
    | c :: rest => if c = 't' ∨ c = 'T' ∨ c = ' ' then pure rest else throw .invalid
  let (hour, cs) ← readField 2 0 23 cs
  let cs ← readMark ':' cs
  let (minute, cs) ← readField 2 0 59 cs
  let cs ← readMark ':' cs
  let (second, cs) ← readField 2 0 60 cs
  let (nanos, cs) ← readFraction cs
  pure (⟨⟨year, month, day⟩, hour, minute, second, nanos⟩, cs)

/-- The instant that a text denotes. -/
def ofText (s : String) : Except InstantFault Instant := do
  let (written, cs) ← readLocal s.toList
  let (offset, cs) ← readOffset cs
  match trimStartChars cs with
  | [] => written.resolve offset
  | _ :: _ => throw .tooLong

example : (ofText "2026-01-02T03:04:05.12+05:30").toOption =
    some ⟨1767303245, 120000000⟩ := by decide +kernel
example : (ofText "+10000- 1-1 0:0:60 utc").toOption =
    some ⟨253402300859, 1000000000⟩ := by decide +kernel

end Instant

end ChatGateway
