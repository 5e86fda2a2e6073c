/-!
# The fewest digits that read back

A finite double stands for a whole interval of reals: those that round to it.  Its
text is a decimal with as few digits as any in that interval; of two such decimals it
is the nearer, and of two equally near the even one.

The search runs over the grids of one, two, … seventeen digits and tests, on each, the
two neighbours of the exact value.  All of it is arithmetic on natural numbers.
-/

set_option autoImplicit false

namespace ChatGateway.Decimal

/-- The value `mantissa * 2 ^ exponent`, with the mark whether the next value below is
half as far away as the next value above. -/
structure Binary where
  mantissa : Nat
  exponent : Int
  narrowBelow : Bool
deriving DecidableEq, Repr

/-- The magnitude of a finite double, from its bits. -/
def Binary.ofBits (bits : UInt64) : Binary :=
  let e := bits.toNat / Nat.pow 2 52 % 2048
  let f := bits.toNat % Nat.pow 2 52
  if e = 0 then ⟨f, -1074, false⟩
  else ⟨Nat.pow 2 52 + f, Int.ofNat e - 1075, f = 0 && 1 < e⟩

/-- The decimal `digits * 10 ^ exponent`. -/
structure Scaled where
  digits : Nat
  exponent : Int
deriving DecidableEq, Repr

/-- Compares `a * 10 ^ i` with `n * 2 ^ j`. -/
def compareScaled (a : Nat) (i : Int) (n : Nat) (j : Int) : Ordering :=
  compare (a * Nat.pow 10 i.toNat * Nat.pow 2 (-j).toNat)
    (n * Nat.pow 2 j.toNat * Nat.pow 10 (-i).toNat)

/-- Whether `d` lies in the interval of reals that round to `x`; the ends belong to it
exactly when the mantissa is even. -/
def Binary.covers (x : Binary) (d : Scaled) : Bool :=
  let low := compareScaled d.digits d.exponent
    (if x.narrowBelow then 4 * x.mantissa - 1 else 4 * x.mantissa - 2) (x.exponent - 2)
  let high := compareScaled d.digits d.exponent (4 * x.mantissa + 2) (x.exponent - 2)
  let ends := x.mantissa % 2 = 0
  (low = .gt || (ends && low = .eq)) && (high = .lt || (ends && high = .eq))

/-- The number of decimal digits of `n`, zero for zero. -/
def digitCount (n : Nat) : Nat :=
  if n = 0 then 0 else (Nat.toDigits 10 n).length

/-- The least `k` with `x < 10 ^ k`, for a value that is not zero. -/
def Binary.scale (x : Binary) : Int :=
  if 0 ≤ x.exponent then digitCount (x.mantissa * Nat.pow 2 x.exponent.toNat)
  else
    -- `m / 2 ^ s` is `m * 5 ^ s / 10 ^ s`
    let s := (-x.exponent).toNat
    (digitCount (x.mantissa * Nat.pow 5 s) : Int) - s

/-- The grid point just below `x` or at it, in units of `10 ^ e`. -/
def Binary.floorAt (x : Binary) (e : Int) : Nat :=
  (x.mantissa * Nat.pow 2 x.exponent.toNat * Nat.pow 10 (-e).toNat) /
    (Nat.pow 2 (-x.exponent).toNat * Nat.pow 10 e.toNat)

/-- The decimal of the grid `10 ^ e` that reads back as `x`, if there is one. -/
def Binary.onGrid? (x : Binary) (e : Int) : Option Scaled :=
  let below := x.floorAt e
  match x.covers ⟨below, e⟩, x.covers ⟨below + 1, e⟩ with
  | true, false => some ⟨below, e⟩
  | false, true => some ⟨below + 1, e⟩
  | false, false => none
  | true, true =>
    match compareScaled (2 * below + 1) e (2 * x.mantissa) x.exponent with
    | .gt => some ⟨below, e⟩
    | .lt => some ⟨below + 1, e⟩
    | .eq => some ⟨if below % 2 = 0 then below else below + 1, e⟩

/-- The exact decimal of `x`, which has finitely many digits because ten is even. -/
def Binary.exact (x : Binary) : Scaled :=
  if 0 ≤ x.exponent then ⟨x.mantissa * Nat.pow 2 x.exponent.toNat, 0⟩
  else ⟨x.mantissa * Nat.pow 5 (-x.exponent).toNat, x.exponent⟩

/-- `d` with the zeros at the end of its digits moved into the exponent; the first
argument bounds how many are moved. -/
def Scaled.strip : Nat → Scaled → Scaled
  | 0, d => d
  | fuel + 1, d =>
    if d.digits ≠ 0 ∧ d.digits % 10 = 0 then strip fuel ⟨d.digits / 10, d.exponent + 1⟩
    else d

/-- The shortest decimal that reads back as `x`, for a value that is not zero. -/
def Binary.shortest (x : Binary) : Scaled :=
  let k := x.scale
  let found := (List.range 17).findSome? fun n => x.onGrid? (k - Int.ofNat (n + 1))
  (found.getD x.exact).strip 400

/-- `n` with zeros in front up to `width` digits. -/
def padded (width n : Nat) : String :=
  let ds := Nat.toDigits 10 n
  String.ofList (List.replicate (width - ds.length) '0' ++ ds)

/-- How a finite double is written: where its decimal point stands and when it has an
exponent. -/
structure Layout where
  /-- The least exponent of the first digit that is written positionally. -/
  least : Int
  /-- The greatest such exponent. -/
  greatest : Int
  /-- Whether a whole number is written with a zero behind the decimal point. -/
  pointed : Bool

/-- The digits with the decimal point after the first `point` of them, filled with
zeros on either side; `pointed` says whether a text without a fraction ends in one
zero. -/
def positional (pointed : Bool) (ds : List Char) (point : Int) : List Char :=
  if point ≤ 0 then
    '0' :: '.' :: (List.replicate (-point).toNat '0' ++ ds)
  else
    let p := point.toNat
    if ds.length ≤ p then
      ds ++ List.replicate (p - ds.length) '0' ++ if pointed then ['.', '0'] else []
    else ds.take p ++ '.' :: ds.drop p

/-- The digits with one before the decimal point, and an exponent with its sign. -/
def scientific (ds : List Char) (exponent : Int) : List Char :=
  let fraction := match ds with
    | [] => []
    | [d] => [d]
    | d :: rest => d :: '.' :: rest
  let sign := if exponent < 0 then '-' else '+'
  fraction ++ 'e' :: sign :: Nat.toDigits 10 exponent.natAbs

/-- The text of a finite double, from its bits. -/
def Layout.render (l : Layout) (bits : UInt64) : String :=
  let x := Binary.ofBits bits
  let sign := if Nat.pow 2 63 ≤ bits.toNat then ['-'] else []
  if x.mantissa = 0 then
    String.ofList (sign ++ if l.pointed then ['0', '.', '0'] else ['0'])
  else
    let d := x.shortest
    let ds := Nat.toDigits 10 d.digits
    let exponent := d.exponent + ds.length - 1
    let body :=
      if l.least ≤ exponent ∧ exponent ≤ l.greatest then positional l.pointed ds (exponent + 1)
      else scientific ds exponent
    String.ofList (sign ++ body)

/-- Floating-point numbers in messages are positional from `1e-5` to below `1e16`;
beyond that they have an exponent with its sign. -/
def inMessages : Layout := ⟨-5, 15, true⟩

/-- Floating-point numbers in log filters are always positional. -/
def inFilters : Layout := ⟨-400, 400, false⟩

example : inMessages.render 0x3FF8000000000000 = "1.5" := by decide +kernel
example : inMessages.render 0x4024000000000000 = "10.0" := by decide +kernel
example : inMessages.render 0xBF847AE147AE147B = "-0.01" := by decide +kernel
example : inMessages.render 0x4341C37937E08000 = "1e+16" := by decide +kernel
example : inMessages.render 0x3E80000000000000 = "1.1920928955078125e-7" := by decide +kernel
example : inMessages.render 1 = "5e-324" := by decide +kernel
example : inFilters.render 0x4341C37937E08000 = "10000000000000000" := by decide +kernel
example : inFilters.render 0x8000000000000000 = "-0" := by decide +kernel

end ChatGateway.Decimal
