/-!
# Names of hosts beyond ASCII

A label with characters beyond ASCII is written with ASCII letters and digits alone: its
ASCII characters, and then, for each other character in the order of its number, how far
it is from the place and number of the one before.  The distances are numbers of
variable length whose digits have thresholds that adapt to the distances seen so far.
-/

set_option autoImplicit false

namespace ChatGateway.Url.Punycode

/-- The digit of a value below 36. -/
def digit (d : Nat) : Char :=
  if d < 26 then Char.ofNat (97 + d) else Char.ofNat (22 + d)

/-- The threshold of the digit at position `k`. -/
def threshold (k bias : Nat) : Nat :=
  min 26 (max 1 (k - bias))

/-- The digits of a distance; the first argument bounds their number. -/
def digits : Nat → Nat → Nat → Nat → List Char
  | 0, _, _, _ => []
  | fuel + 1, bias, k, q =>
    let t := threshold k bias
    if q < t then [digit q]
    else digit (t + (q - t) % (36 - t)) :: digits fuel bias (k + 36) ((q - t) / (36 - t))

/-- The bias after dividing a distance down; the first argument bounds the divisions. -/
def settle : Nat → Nat → Nat → Nat
  | 0, k, _ => k
  | fuel + 1, k, delta =>
    if 455 < delta then settle fuel (k + 36) (delta / 35) else k + 36 * delta / (delta + 38)

/-- The bias after a distance that brought the number of characters to `count`. -/
def adapt (delta count : Nat) (isFirst : Bool) : Nat :=
  let d := if isFirst then delta / 700 else delta / 2
  settle 32 0 (d + d / count)

/-- What has been written and where the writing stands. -/
structure State where
  out : List Char
  delta : Nat
  bias : Nat
  count : Nat
  isFirst : Bool

/-- Goes past one character of the label on behalf of the characters of number `n`. -/
def pass (n : Nat) (s : State) (c : Char) : State :=
  if c.toNat < n then { s with delta := s.delta + 1 }
  else if c.toNat = n then
    { out := s.out ++ digits 32 s.bias 36 s.delta
      delta := 0
      bias := adapt s.delta (s.count + 1) s.isFirst
      count := s.count + 1
      isFirst := false }
  else s

/-- Writes the characters of each of some numbers; `next` is the number after the last
one that was written. -/
def writeAll (label : List Char) : Nat → List Nat → State → State
  | _, [], s => s
  | next, n :: ns, s =>
    let s := { s with delta := s.delta + (n - next) * (s.count + 1) }
    let s := label.foldl (pass n) s
    writeAll label (n + 1) ns { s with delta := s.delta + 1 }

/-- Puts a number into a list in rising order, unless it is there. -/
def insertNumber (n : Nat) : List Nat → List Nat
  | [] => [n]
  | m :: ms => if n < m then n :: m :: ms else if n = m then m :: ms else m :: insertNumber n ms

/-- A label in ASCII. -/
def encodeLabel (label : List Char) : List Char :=
  let basic := label.filter fun c => c.toNat < 0x80
  if basic.length = label.length then label
  else
    let numbers := ((label.map Char.toNat).filter fun n => 0x80 ≤ n).foldr insertNumber []
    let start := if basic.isEmpty then [] else basic ++ ['-']
    "xn--".toList ++ (writeAll label 0x80 numbers ⟨start, 0, 72, basic.length, true⟩).out

/-! ## Reading -/

/-- The value of a digit. -/
def digitValue? (c : Char) : Option Nat :=
  if 'a' ≤ c ∧ c ≤ 'z' then some (c.toNat - 97)
  else if '0' ≤ c ∧ c ≤ '9' then some (c.toNat - 22)
  else none

/-- The distance that the digits at the front of a text spell, added to `sum`, and what
follows them.  `k` and `weight` are the position and the weight of the next digit.  A
number that takes more than 32 bits is none. -/
def takeDistance (bias : Nat) : Nat → Nat → Nat → List Char → Option (Nat × List Char)
  | _, _, _, [] => none
  | k, weight, sum, c :: cs =>
    match digitValue? c with
    | none => none
    | some d =>
      let sum := sum + d * weight
      let t := threshold k bias
      if UInt32.size ≤ sum then none
      else if d < t then some (sum, cs)
      else if UInt32.size ≤ weight * (36 - t) then none
      else takeDistance bias (k + 36) (weight * (36 - t)) sum cs

/-- Puts the characters that a text of distances stands for into a label.  `number` is the
number of the character put in last and `place` the place after it; the first argument
bounds how many there are. -/
def readFrom : Nat → List Char → Nat → Nat → Nat → List Char → Option (List Char)
  | _, label, _, _, _, [] => some label
  | 0, _, _, _, _, _ :: _ => none
  | fuel + 1, label, number, place, bias, cs =>
    match takeDistance bias 36 1 place cs with
    | none => none
    | some (i, rest) =>
      let count := label.length + 1
      let number := number + i / count
      let here := i % count
      if number < 0xD800 ∨ (0xDFFF < number ∧ number < 0x110000) then
        readFrom fuel (label.take here ++ Char.ofNat number :: label.drop here) number
          (here + 1) (adapt (i - place) count (place = 0)) rest
      else none

/-- The label that a text in small ASCII letters stands for, after `xn--`. -/
def decodeLabel? (cs : List Char) : Option (List Char) :=
  let distances := (cs.reverse.takeWhile (· ≠ '-')).reverse
  let basic := cs.take (cs.length - distances.length - 1)
  let distances := if basic.isEmpty then cs else distances
  readFrom distances.length basic 0x80 0 72 distances

example : encodeLabel "bücher".toList = "xn--bcher-kva".toList := by decide +kernel
example : encodeLabel "日本".toList = "xn--wgv71a".toList := by decide +kernel
example : decodeLabel? "bcher-kva".toList = some "bücher".toList := by decide +kernel
example : decodeLabel? "wgv71a".toList = some "日本".toList := by decide +kernel
example : decodeLabel? "a".toList = some ['\u0080'] ∧ decodeLabel? "99999999".toList = none := by
  decide +kernel

end ChatGateway.Url.Punycode
