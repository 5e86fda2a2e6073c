/-!
# Repeating reads

A read that failed for a passing reason is repeated after a delay.  The delay doubles
with each attempt, up to sixteen times, and never exceeds its limit.
-/

set_option autoImplicit false

namespace ChatGateway

/-- How often a read is made and how long is waited in between, in milliseconds. -/
structure RetryPolicy where
  /-- The number of attempts with the first one; zero counts as one. -/
  maxAttempts : UInt32
  initialBackoff : UInt64
  maxBackoff : UInt64
deriving DecidableEq, Repr

namespace RetryPolicy

/-- The policy when none is configured. -/
def standard : RetryPolicy :=
  ⟨3, 250, 4000⟩

/-- The number of attempts. -/
def attempts (p : RetryPolicy) : UInt32 :=
  max p.maxAttempts 1

/-- The product, or the greatest word if it does not fit. -/
def saturatingMul (a b : UInt64) : UInt64 :=
  if a.toNat * b.toNat < UInt64.size then a * b else UInt64.ofNat (UInt64.size - 1)

/-- The delay after the given attempt has failed; the first attempt is number one. -/
def backoff (p : RetryPolicy) (attempt : UInt32) : UInt64 :=
  let shift := min (attempt.toNat - 1) 16
  min (saturatingMul p.initialBackoff (UInt64.ofNat (Nat.pow 2 shift))) p.maxBackoff

example : standard.backoff 4 = 2000 ∧ standard.backoff 0 = 250 := by decide
example : (RetryPolicy.mk 9 (UInt64.ofNat (Nat.pow 2 60)) 7).backoff 17 = 7 := by decide

end RetryPolicy

/-- The outcome of an action that is repeated after failures for which `again` holds, at
most `attempts` times, with the delays that lie between.  `outcome i` is what attempt
`i` gives, counted from one. -/
def retrying {ε α : Type} (again : ε → Bool) (attempts : Nat) (delay : Nat → Nat)
    (outcome : Nat → Except ε α) : Except ε α × List Nat :=
  go (attempts - 1) 1
where
  /-- The outcome from the given attempt on, with so many attempts left after it. -/
  go : Nat → Nat → Except ε α × List Nat
    | 0, i => (outcome i, [])
    | left + 1, i =>
      match outcome i with
      | .ok x => (.ok x, [])
      | .error e =>
        if again e then
          let (result, delays) := go left (i + 1)
          (result, delay i :: delays)
        else (.error e, [])

end ChatGateway
