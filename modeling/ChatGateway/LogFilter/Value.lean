import ChatGateway.Decimal.Reader
import ChatGateway.Decimal.Shortest
import ChatGateway.Pattern.Reader

/-!
# Values of fields in log filters

The value of a field is a truth value or a number if it can be one, and a pattern if it
cannot.  Values have an order: first truth values, then real numbers, natural numbers,
negative integers and patterns.
-/

set_option autoImplicit false

namespace ChatGateway

/-- What the value of a field is compared with. -/
inductive LogValue
  | truth (b : Bool)
  /-- A double, by its bits; what is no number is positive. -/
  | real (bits : UInt64)
  | natural (n : Nat)
  | integer (n : Int)
  | pattern (s : String)
deriving DecidableEq, Repr

namespace LogValue

/-- The value that a text denotes.  Numbers of more than 64 bits are real numbers. -/
def ofText? (s : String) : Option LogValue :=
  let cs := s.toList
  if s = "true" then some (truth true)
  else if s = "false" then some (truth false)
  else
    let whole := (Decimal.natural? cs).filter (· < UInt64.size)
    let negative := (Decimal.integer? cs).filter fun n =>
      n ≤ 0 && n.natAbs ≤ UInt64.size / 2
    match whole, negative, Decimal.real? cs with
    | some n, _, _ => some (natural n)
    | none, some n, _ => some (integer n)
    | none, none, some bits => some (real bits)
    | none, none, none => if Pattern.isPattern s then some (pattern s) else none

/-- A value as it is written. -/
def toText : LogValue → String
  | truth b => if b then "true" else "false"
  | real bits =>
    if bits = Decimal.notANumberBits then "NaN"
    else if bits = Decimal.infinityBits then "inf"
    else if bits = Decimal.infinityBits + 0x8000000000000000 then "-inf"
    else Decimal.inFilters.render bits
  | natural n => toString n
  | integer n => toString n
  | pattern s => s

/-! ## Order -/

/-- The place of a kind of value in the order. -/
def rank : LogValue → Nat
  | truth _ => 0
  | real _ => 1
  | natural _ => 2
  | integer _ => 3
  | pattern _ => 4

/-- A number that orders doubles; both zeros have the same one, and what is no number has
the greatest. -/
def realKey (bits : UInt64) : Int :=
  let magnitude := Int.ofNat (bits.toNat % Nat.pow 2 63)
  if bits.toNat < Nat.pow 2 63 then magnitude else -magnitude

/-- Compares two values. -/
protected def compare : LogValue → LogValue → Ordering
  | truth a, truth b => compare a.toNat b.toNat
  | real a, real b => compare (realKey a) (realKey b)
  | natural a, natural b => compare a b
  | integer a, integer b => compare a b
  | pattern a, pattern b => compare a b
  | a, b => compare a.rank b.rank

/-- Values come in the order of their kinds, and within a kind in that of what they hold. -/
instance : Ord LogValue :=
  ⟨LogValue.compare⟩

example : (ofText? "-0").map toText = some "0" ∧ (ofText? "-0.0").map toText = some "-0" := by
  decide +kernel
example : (ofText? "18446744073709551616").map toText = some "18446744073709552000" := by
  decide +kernel
example : ofText? "*" = none ∧ ofText? "" = some (pattern "") := by decide +kernel
example : compare (real 0) (real 0x8000000000000000) = .eq := by decide +kernel

end LogValue

end ChatGateway
