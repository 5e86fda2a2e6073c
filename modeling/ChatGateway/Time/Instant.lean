import ChatGateway.Decimal.Shortest

/-!
# Instants and their dates

An instant is a number of seconds since the start of 1970 in UTC with a number of
nanoseconds.  Inside a leap second the nanoseconds run on from the second before, so
they may exceed a thousand million.

Dates are those of the Gregorian calendar, continued in both directions.
-/

set_option autoImplicit false

namespace ChatGateway

/-- A date of the calendar. -/
structure Date where
  year : Int
  month : Nat
  day : Nat
deriving DecidableEq, Repr

namespace Date

/-- Whether `year` has a twenty-ninth of February. -/
def isLeapYear (year : Int) : Bool :=
  year % 4 = 0 && (year % 100 ≠ 0 || year % 400 = 0)

/-- The number of days of a month. -/
def monthLength (year : Int) (month : Nat) : Nat :=
  if month = 2 then (if isLeapYear year then 29 else 28)
  else if month = 4 ∨ month = 6 ∨ month = 9 ∨ month = 11 then 30
  else 31

/-- Whether the date exists and its year is one that instants can have. -/
def isValid (d : Date) : Bool :=
  -262143 ≤ d.year && d.year ≤ 262142 && 1 ≤ d.month && d.month ≤ 12 &&
  1 ≤ d.day && d.day ≤ monthLength d.year d.month

/-- The number of days from the start of 1970 to the date.  Years are counted from
March, which puts the leap day at their end. -/
def toDays (d : Date) : Int :=
  let year := if d.month ≤ 2 then d.year - 1 else d.year
  let era := year / 400
  let yearOfEra := year % 400
  let month : Int := if d.month ≤ 2 then d.month + 9 else d.month - 3
  let dayOfYear := (153 * month + 2) / 5 + d.day - 1
  let dayOfEra := yearOfEra * 365 + yearOfEra / 4 - yearOfEra / 100 + dayOfYear
  era * 146097 + dayOfEra - 719468

/-- The date that many days after the start of 1970. -/
def ofDays (days : Int) : Date :=
  let z := days + 719468
  let era := z / 146097
  let dayOfEra := z % 146097
  let yearOfEra :=
    (dayOfEra - dayOfEra / 1460 + dayOfEra / 36524 - dayOfEra / 146096) / 365
  let dayOfYear := dayOfEra - (365 * yearOfEra + yearOfEra / 4 - yearOfEra / 100)
  let month := (5 * dayOfYear + 2) / 153
  let day := (dayOfYear - (153 * month + 2) / 5 + 1).toNat
  if month < 10 then ⟨yearOfEra + era * 400, (month + 3).toNat, day⟩
  else ⟨yearOfEra + era * 400 + 1, (month - 9).toNat, day⟩

end Date

/-- A point in time. -/
structure Instant where
  seconds : Int
  nanos : Nat
deriving DecidableEq, Repr

namespace Instant

/-- Whether `a` is not later than `b`. -/
def le (a b : Instant) : Bool :=
  a.seconds < b.seconds || (a.seconds = b.seconds && a.nanos ≤ b.nanos)

/-- The date of an instant in UTC. -/
def date (t : Instant) : Date :=
  Date.ofDays (t.seconds / 86400)

/-- The second of the day of an instant in UTC. -/
def secondOfDay (t : Instant) : Nat :=
  (t.seconds % 86400).toNat

/-- A year: four digits, or a sign and at least four when it has more or is negative. -/
def yearText (year : Int) : String :=
  if 0 ≤ year ∧ year < 10000 then Decimal.padded 4 year.toNat
  else (if year < 0 then "-" else "+") ++ Decimal.padded 4 year.natAbs

/-- A date as year, month and day. -/
def dateText (d : Date) : String :=
  yearText d.year ++ "-" ++ Decimal.padded 2 d.month ++ "-" ++ Decimal.padded 2 d.day

/-- The fraction of a second: none, or three, six or nine digits. -/
def fractionText (nanos : Nat) : String :=
  if nanos = 0 then ""
  else if nanos % 1000000 = 0 then "." ++ Decimal.padded 3 (nanos / 1000000)
  else if nanos % 1000 = 0 then "." ++ Decimal.padded 6 (nanos / 1000)
  else "." ++ Decimal.padded 9 nanos

/-- The hour and the minute of an instant in UTC. -/
def minuteText (t : Instant) : String :=
  Decimal.padded 2 (t.secondOfDay / 3600) ++ ":" ++
    Decimal.padded 2 (t.secondOfDay / 60 % 60)

/-- The second of the minute with its fraction; a leap second is the sixtieth. -/
def secondText (t : Instant) : String :=
  Decimal.padded 2 (t.secondOfDay % 60 + t.nanos / 1000000000) ++
    fractionText (t.nanos % 1000000000)

/-- The instant in UTC up to its offset. -/
def localText (t : Instant) : String :=
  dateText t.date ++ "T" ++ t.minuteText ++ ":" ++ t.secondText

/-- The instant as it is written on the wire. -/
def wireText (t : Instant) : String :=
  t.localText ++ "Z"

/-- The instant with its offset written in digits. -/
def offsetText (t : Instant) : String :=
  t.localText ++ "+00:00"

/-- The instant to the minute, for people. -/
def displayText (t : Instant) : String :=
  dateText t.date ++ " " ++ t.minuteText

end Instant

example : (Date.ofDays 0, Date.ofDays 11016, Date.ofDays (-1)) =
    (⟨1970, 1, 1⟩, ⟨2000, 2, 29⟩, ⟨1969, 12, 31⟩) := by decide
example : Date.toDays ⟨2026, 1, 2⟩ = 20455 := by decide
example : Instant.wireText ⟨1767323045, 120000000⟩ = "2026-01-02T03:04:05.120Z" := by
  decide +kernel
example : Instant.wireText ⟨1483228799, 1000000000⟩ = "2016-12-31T23:59:60Z" := by
  decide +kernel

end ChatGateway
