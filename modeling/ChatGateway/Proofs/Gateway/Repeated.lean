import Mathlib
import ChatGateway.Gateway.Client

/-!
# Reads that are repeated

A read is made until its outcome is settled, which is a success or a failure that would not
pass, or until the attempts of the policy are used up.  The loop is looked at twice: as the
function that counts attempts down (`retrying_go`), and attempt by attempt with the words that
count them (`Repeats`), where it never gets stuck on a number that does not fit.  Delays are
those of unbounded numbers, because a product that does not fit exceeds every limit
(`toNat_backoff`).
-/

set_option autoImplicit false

namespace ChatGateway

section loop

variable {ε α : Type}

/-- Whether an outcome is not worth another attempt. -/
def settles (again : ε → Bool) : Except ε α → Bool
  | .ok _ => true
  | .error e => !again e

variable {again : ε → Bool} {delay : ℕ → ℕ} {outcome : ℕ → Except ε α}

/-- A loop with attempts left either stops at this one or pauses and goes on. -/
theorem retrying_go_succ (left i : ℕ) :
    retrying.go again delay outcome (left + 1) i =
      if settles again (outcome i) then (outcome i, [])
      else
        ((retrying.go again delay outcome left (i + 1)).1,
          delay i :: (retrying.go again delay outcome left (i + 1)).2) := by
  cases ho : outcome i with
  | ok x => simp [retrying.go, ho, settles]
  | error e => cases ha : again e <;> simp [retrying.go, ho, ha, settles]

/-- If every outcome settles it, there is one attempt and no pause. -/
theorem retrying_of_settled {o : Except ε α} (h : settles again o = true) (attempts : ℕ) :
    retrying again attempts delay (fun _ => o) = (o, []) := by
  unfold retrying
  cases attempts - 1 with
  | zero => rfl
  | succ left => rw [retrying_go_succ, if_pos h]

end loop

namespace RetryPolicy

/-- Attempt by attempt under a policy, with the words that count them: from the attempt with a
number on, the result and the delays that lie between.  An attempt is followed by another one
only if the factor of its delay and the next number fit in their words. -/
inductive Repeats {α : Type} (p : RetryPolicy) (outcome : ℕ → Except Failure α) :
    UInt32 → Except Failure α → List UInt64 → Prop
  | settled {attempt : UInt32}
      (settled : settles Failure.isRetryable (outcome attempt.toNat) = true) :
      Repeats p outcome attempt (outcome attempt.toNat) []
  | usedUp {attempt : UInt32} (usedUp : ¬ attempt < p.attempts) :
      Repeats p outcome attempt (outcome attempt.toNat) []
  | again {attempt : UInt32} {result : Except Failure α} {delays : List UInt64}
      (passing : settles Failure.isRetryable (outcome attempt.toNat) = false)
      (left : attempt < p.attempts) (factor : 2 ^ min (attempt.toNat - 1) 16 < UInt64.size)
      (next : attempt.toNat + 1 < UInt32.size)
      (rest : Repeats p outcome (attempt + 1) result delays) :
      Repeats p outcome attempt result (p.backoff attempt :: delays)

section repeats

variable {α : Type} {p : RetryPolicy} {outcome : ℕ → Except Failure α}

/-- An outcome and the pauses before it are settled by the policy and what happens. -/
theorem Repeats.unique {attempt : UInt32} {r r' : Except Failure α} {ds ds' : List UInt64}
    (h : p.Repeats outcome attempt r ds) (h' : p.Repeats outcome attempt r' ds') :
    r = r' ∧ ds = ds' := by
  induction h generalizing r' ds' with
  | settled hs =>
    cases h' with
    | settled => exact ⟨rfl, rfl⟩
    | usedUp => exact ⟨rfl, rfl⟩
    | again hp => simp [hs] at hp
  | usedUp hu =>
    cases h' with
    | settled => exact ⟨rfl, rfl⟩
    | usedUp => exact ⟨rfl, rfl⟩
    | again _ hl => exact absurd hl hu
  | again hp hl _ _ _ ih =>
    cases h' with
    | settled hs => simp [hp] at hs
    | usedUp hu => exact absurd hl hu
    | again _ _ _ _ hrest =>
      obtain ⟨rfl, rfl⟩ := ih hrest
      exact ⟨rfl, rfl⟩

end repeats

end RetryPolicy

namespace Gateway.Client

/-- What the attempts of a read give, counted from one.  A request that is refused is refused
each time. -/
def outcomes {α : Type} (server : Server) (decode : String → Except Refusal α)
    (endpoint : String) (c : Client) : ℕ → Except Failure α :=
  match Request.make c.connection endpoint none with
  | .error refused => fun _ => .error refused.failure
  | .ok r => fun i => attempt server decode r (c.sent.length + i - 1)

/-- The requests that go out when so many attempts are made. -/
def requests (endpoint : String) (c : Client) (attempts : ℕ) : List Request :=
  match Request.make c.connection endpoint none with
  | .error _ => []
  | .ok r => List.replicate attempts r

/-- What is refused is not tried again. -/
theorem isRetryable_refused (refused : Request.Refused) : refused.failure.isRetryable = false := by
  cases refused <;> rfl

/-- A read makes its attempts one after the other; each sends the same request. -/
theorem read_eq {α : Type} (server : Server) (decode : String → Except Refusal α)
    (endpoint : String) (c : Client) {result : Except Failure α} {delays : List ℕ}
    (h : retrying Failure.isRetryable c.connection.retry.attempts.toNat
      (fun i => (c.connection.retry.backoff i.toUInt32).toNat)
      (c.outcomes server decode endpoint) = (result, delays)) :
    c.read server decode endpoint =
      (result, { c with sent := c.sent ++ c.requests endpoint (delays.length + 1) }) := by
  unfold outcomes at h
  unfold read requests
  cases hmake : Request.make c.connection endpoint none with
  | ok r =>
    simp only [hmake] at h
    simp only [h]
  | error refused =>
    have hsettled : settles Failure.isRetryable (.error refused.failure : Except Failure α) =
        true := by
      simp [settles, isRetryable_refused]
    simp only [hmake, retrying_of_settled hsettled, Prod.mk.injEq] at h
    simp [← h.1]

end Gateway.Client

end ChatGateway
