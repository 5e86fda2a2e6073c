/-!
# The double nearest to a decimal

A decimal denotes the double that is nearest to it; of two equally near ones it is the
one with an even mantissa.  A decimal that is too large for all of them denotes
infinity.  All of it is arithmetic on natural numbers.
-/

set_option autoImplicit false

namespace ChatGateway.Decimal

/-- `n / d` rounded to the nearest natural number, a half to the even one. -/
def roundedQuotient (n d : Nat) : Nat :=
  let q := n / d
  match compare (2 * (n % d)) d with
  | .lt => q
  | .gt => q + 1
  | .eq => if q % 2 = 0 then q else q + 1

/-- The bits of infinity. -/
def infinityBits : UInt64 :=
  0x7FF0000000000000

/-- The bits of the double nearest to `n / d`, where `n` and `d` are not zero.  The
mantissa has 53 bits, or fewer where the exponent is the least that there is; a mantissa
that rounds up to one bit more is the next power of two, which the bits spell by
themselves. -/
def nearestQuotient (n d : Nat) : UInt64 :=
  -- `2 ^ s` is the distance of neighbours near the value, or twice that
  let s : Int := max (-1074) (Int.ofNat n.log2 - Int.ofNat d.log2 - 53)
  let mantissa (s : Int) : Nat :=
    roundedQuotient (n * Nat.pow 2 (-s).toNat) (d * Nat.pow 2 s.toNat)
  let s := if mantissa s < Nat.pow 2 53 then s else s + 1
  let m := mantissa s
  let bits :=
    if m < Nat.pow 2 52 then m
    else (s + 1075).toNat * Nat.pow 2 52 + (m - Nat.pow 2 52)
  if infinityBits.toNat ≤ bits then infinityBits else bits.toUInt64

/-- The bits of the double nearest to `digits * 10 ^ exponent`. -/
def nearest (digits : Nat) (exponent : Int) : UInt64 :=
  if digits = 0 then 0
  else
    let scale := exponent + (Nat.toDigits 10 digits).length
    if 310 < scale then infinityBits
    else if scale < -330 then 0
    else nearestQuotient (digits * Nat.pow 10 exponent.toNat) (Nat.pow 10 (-exponent).toNat)

example : nearest 15 (-1) = 0x3FF8000000000000 := by decide +kernel
example : nearest 1 16 = 0x4341C37937E08000 := by decide +kernel
example : nearest 5 (-324) = 1 ∧ nearest 2 (-324) = 0 := by decide +kernel
example : nearest 17976931348623158 292 = 0x7FEFFFFFFFFFFFFF := by decide +kernel
example : nearest 17976931348623159 292 = infinityBits := by decide +kernel
example : nearest 9007199254740993 0 = 0x4340000000000000 := by decide +kernel

end ChatGateway.Decimal
