import Mathlib
import ChatGateway.Proofs.Sse.Pulled

/-!
# What comes of a reply after its caller has cancelled

The reader looks at the token at one point only: when it has nothing queued and is about to
wait for the body.  So what is queued when the caller cancels is still handed out, and a reader
that waits for the body by then still hands out all that the body gives it next, be it chunks,
a failure or the silence (`owed`).  After that it is over, with nothing more taken from the
body (`Run.after_cancel`).

A reply that ends when its caller cancels would give nothing after that.  This holds at just
those moments at which nothing is queued and the body is not waited for.
-/

set_option autoImplicit false

namespace ChatGateway.Sse.Pulled

variable {idle : Nat} {moves before after : List Move} {p p' q : Pulled} {m : Move}

/-! ## The moves after a moment -/

/-- A move leads to one state. -/
theorem Step.unique {p₁ p₂ : Pulled} (step₁ : Step idle p m p₁) (step₂ : Step idle p m p₂) :
    p₁ = p₂ := by
  cases step₁ with
  | cancel once => cases step₂; rfl
  | hand looking first =>
    cases step₂ with
    | hand _ first' =>
      obtain ⟨-, rfl⟩ := List.cons.inj (first.symm.trans first')
      rfl
  | wait looking empty goes wanted => cases step₂; rfl
  | read bs waiting =>
    cases step₂ with
    | read _ _ => rfl
    | fail _ failure => cases failure
  | fail waiting failure =>
    cases step₂ with
    | read _ _ => cases failure
    | fail _ _ => rfl
  | close waiting => cases step₂; rfl
  | stop looking empty done => cases step₂; rfl

/-- Some moves lead to one state. -/
theorem Run.unique {p₁ p₂ : Pulled} (run₁ : Run idle moves p₁) (run₂ : Run idle moves p₂) :
    p₁ = p₂ := by
  induction run₁ generalizing p₂ with
  | start =>
    generalize hmoves : ([] : List Move) = moves at run₂
    cases run₂ with
    | start => rfl
    | step run step => simp at hmoves
  | @step moves p p₁ m run step ih =>
    generalize hmoves : moves ++ [m] = all at run₂
    cases run₂ with
    | start => simp at hmoves
    | step run' step' =>
      obtain ⟨rfl, rfl⟩ := List.append_singleton_inj.1 hmoves
      obtain rfl := ih run'
      exact step.unique step'

/-- Some moves lead from one state to another. -/
inductive Leads (idle : Nat) : Pulled → List Move → Pulled → Prop
  | refl (p : Pulled) : Leads idle p [] p
  | step {p p' q : Pulled} {m : Move} {moves : List Move} (step : Step idle p m p')
      (rest : Leads idle p' moves q) : Leads idle p (m :: moves) q

/-- A lead goes on with one more step. -/
theorem Leads.concat (leads : Leads idle p moves p') (step : Step idle p' m q) :
    Leads idle p (moves ++ [m]) q := by
  induction leads with
  | refl => exact .step step (.refl _)
  | step first rest ih => exact .step first (ih step)

/-- What happens first and what happens then. -/
theorem run_append_iff :
    Run idle (before ++ after) p ↔ ∃ q, Run idle before q ∧ Leads idle q after p := by
  constructor
  · intro run
    generalize hmoves : before ++ after = moves at run
    induction run generalizing after with
    | start =>
      obtain ⟨rfl, rfl⟩ := List.append_eq_nil_iff.1 hmoves
      exact ⟨_, .start, .refl _⟩
    | @step moves p p' m run step ih =>
      rcases List.eq_nil_or_concat after with rfl | ⟨rest, m', rfl⟩
      · rw [List.append_nil] at hmoves
        exact ⟨p', hmoves ▸ run.step step, .refl _⟩
      · rw [List.concat_eq_append, ← List.append_assoc, List.append_singleton_inj] at hmoves
        obtain ⟨hbefore, rfl⟩ := hmoves
        obtain ⟨q, hrun, hleads⟩ := ih hbefore
        rw [List.concat_eq_append]
        exact ⟨q, hrun, hleads.concat step⟩
  · rintro ⟨q, run, leads⟩
    induction leads generalizing before with
    | refl => rwa [List.append_nil]
    | step first rest ih =>
      rw [List.append_cons]
      exact ih (run.step first)

/-! ## A reader that was cancelled -/

/-- What the body gives a reader that waits for it, by what it does. -/
def broughtBy (idle : Nat) (r : ReplyReader) : Move → List Item
  | .read (.bytes bs) => (r.feed bs).pending
  | .read read => ((read.failure? idle).map .error).toList
  | .close => r.close.pending
  | _ => []

/-- What a reader still owes when its caller cancels, if these moves follow. -/
def owed (idle : Nat) (q : Pulled) (after : List Move) : List Item :=
  match q.stage, after with
  | .looking, _ => q.reader.pending
  | .waiting, m :: _ => broughtBy idle q.reader m
  | _, _ => []

/-- A reply is over only when nothing is queued. -/
theorem Run.of_ended (run : Run idle moves p) (ended : p.stage = .ended) :
    p.reader.pending = [] := by
  induction run with
  | start => cases ended
  | step run step ih =>
    cases step with
    | cancel once => exact ih ended
    | hand looking first => exact absurd (looking.symm.trans ended) (by simp)
    | wait looking empty goes wanted => cases ended
    | read bs waiting => cases ended
    | fail waiting failure => cases ended
    | close waiting => cases ended
    | stop looking empty done => exact empty

/-- A reader that is over and was cancelled makes no move. -/
theorem Leads.of_ended (leads : Leads idle q after p) (ended : q.stage = .ended)
    (cancelled : q.cancelled = true) : after = [] ∧ p = q := by
  cases leads with
  | refl => exact ⟨rfl, rfl⟩
  | step step rest =>
    cases step with
    | cancel once => exact absurd (cancelled.symm.trans once) (by simp)
    | hand looking _ => exact absurd (ended.symm.trans looking) (by simp)
    | wait looking _ _ _ => exact absurd (ended.symm.trans looking) (by simp)
    | read bs waiting => exact absurd (ended.symm.trans waiting) (by simp)
    | fail waiting _ => exact absurd (ended.symm.trans waiting) (by simp)
    | close waiting => exact absurd (ended.symm.trans waiting) (by simp)
    | stop looking _ _ => exact absurd (ended.symm.trans looking) (by simp)

/-- A reader that looks for something to hand out gives what is queued after it was cancelled,
one item after the other, and then it is over. -/
theorem Leads.of_looking (leads : Leads idle q after p) (looking : q.stage = .looking)
    (cancelled : q.cancelled = true) :
    itemsOf idle after ++ p.reader.pending = q.reader.pending ∧
      after.countP Move.isOfBody = 0 ∧ after.length ≤ q.reader.pending.length + 1 ∧
      (p.stage = .ended → p.reader.pending = []) := by
  induction leads with
  | refl =>
    exact ⟨rfl, rfl, Nat.zero_le _, fun ended => absurd (looking.symm.trans ended) (by simp)⟩
  | @step q q' p m after step rest ih =>
    cases step with
    | cancel once => exact absurd (cancelled.symm.trans once) (by simp)
    | @hand x pending _ first =>
      obtain ⟨hitems, hbody, hlength, hended⟩ := ih looking cancelled
      refine ⟨?_, by simpa [Move.isOfBody] using hbody, ?_, hended⟩
      · rw [itemsOf_cons, first, List.append_assoc, hitems]
        rfl
      · rw [List.length_cons, first, List.length_cons]
        exact Nat.succ_le_succ hlength
    | wait _ _ _ wanted => exact absurd (cancelled.symm.trans wanted) (by simp)
    | read bs waiting => exact absurd (looking.symm.trans waiting) (by simp)
    | fail waiting _ => exact absurd (looking.symm.trans waiting) (by simp)
    | close waiting => exact absurd (looking.symm.trans waiting) (by simp)
    | stop _ empty _ =>
      obtain ⟨rfl, rfl⟩ := rest.of_ended rfl cancelled
      exact ⟨rfl, rfl, by simp, fun _ => empty⟩

/-- A reader that waits for the body when it is cancelled goes on with what the body does next,
and gives all that this brings. -/
theorem Leads.of_waiting (leads : Leads idle q (m :: after) p) (waiting : q.stage = .waiting)
    (empty : q.reader.pending = []) (cancelled : q.cancelled = true) :
    itemsOf idle (m :: after) ++ p.reader.pending = broughtBy idle q.reader m ∧
      (m :: after).countP Move.isOfBody = 1 ∧
      (m :: after).length ≤ (broughtBy idle q.reader m).length + 2 ∧
      (p.stage = .ended → p.reader.pending = []) := by
  cases leads with
  | @step _ q' _ _ _ step rest =>
  cases step with
  | cancel once => exact absurd (cancelled.symm.trans once) (by simp)
  | hand looking _ => exact absurd (waiting.symm.trans looking) (by simp)
  | wait looking _ _ _ => exact absurd (waiting.symm.trans looking) (by simp)
  | read bs _ =>
    obtain ⟨hitems, hbody, hlength, hended⟩ := rest.of_looking rfl cancelled
    exact ⟨hitems, (List.countP_cons_of_pos rfl).trans (congrArg (· + 1) hbody),
      Nat.succ_le_succ hlength, hended⟩
  | @fail r f _ failure =>
    obtain ⟨hitems, hbody, hlength, hended⟩ := rest.of_looking rfl cancelled
    have hbrought : broughtBy idle q.reader (.read r) = [.error f] := by
      cases r with
      | bytes bs => cases failure
      | failed _ => simp [broughtBy, failure]
      | silent => simp [broughtBy, failure]
    refine ⟨?_, (List.countP_cons_of_pos rfl).trans (congrArg (· + 1) hbody), ?_, hended⟩
    · rw [itemsOf_cons, List.append_assoc, hitems, hbrought]
      simp [Move.item?, failure, empty]
    · rw [empty, List.length_nil] at hlength
      rw [hbrought, List.length_cons]
      exact Nat.succ_le_succ (hlength.trans (by simp))
  | close _ =>
    obtain ⟨hitems, hbody, hlength, hended⟩ := rest.of_looking rfl cancelled
    exact ⟨hitems, (List.countP_cons_of_pos rfl).trans (congrArg (· + 1) hbody),
      Nat.succ_le_succ hlength, hended⟩
  | stop looking _ _ => exact absurd (waiting.symm.trans looking) (by simp)

/-- After it was cancelled a reader gives what it still owes, takes one thing more from the body
if it waits for it, and is over. -/
theorem Leads.of_cancelled (leads : Leads idle q after p) (cancelled : q.cancelled = true)
    (quiet : q.stage = .waiting → q.reader.pending = []) :
    itemsOf idle after <+: owed idle q after ∧
      (p.stage = .ended → itemsOf idle after = owed idle q after) ∧
      after.countP Move.isOfBody ≤ (if q.stage = .waiting then 1 else 0) ∧
      after.length ≤ (owed idle q after).length + 2 := by
  cases hstage : q.stage with
  | looking =>
    obtain ⟨hitems, hbody, hlength, hended⟩ := leads.of_looking hstage cancelled
    have howed : owed idle q after = q.reader.pending := by simp only [owed, hstage]
    rw [howed]
    refine ⟨⟨_, hitems⟩, fun ended => ?_, by simp [hbody], by omega⟩
    rw [← hitems, hended ended, List.append_nil]
  | waiting =>
    cases after with
    | nil =>
      refine ⟨List.nil_prefix, fun ended => ?_, Nat.zero_le _, Nat.zero_le _⟩
      cases leads
      exact absurd (hstage.symm.trans ended) (by simp)
    | cons m rest =>
      obtain ⟨hitems, hbody, hlength, hended⟩ :=
        leads.of_waiting hstage (quiet hstage) cancelled
      have howed : owed idle q (m :: rest) = broughtBy idle q.reader m := by
        simp only [owed, hstage]
      rw [howed]
      refine ⟨⟨_, hitems⟩, fun ended => ?_, by simp [hbody], hlength⟩
      rw [← hitems, hended ended, List.append_nil]
  | ended =>
    obtain ⟨rfl, -⟩ := leads.of_ended hstage cancelled
    exact ⟨List.nil_prefix, fun _ => by simp [owed, hstage, itemsOf], Nat.zero_le _, Nat.zero_le _⟩

/-! ## The moment of the cancellation -/

/-- **A cancelled reply.**  At whatever moment the caller cancels: it gets nothing after that,
whatever the body does, exactly if nothing is queued at that moment and the reader does not wait
for the body.  In any case it gets no more than what is owed: what is queued at that moment, or,
if the reader waits for the body, what the body brings next.  All of that is handed out before
the reply is over, which it is after so many moves, of which at most the one that the reader
waits for is the body's. -/
theorem Run.after_cancel (run : Run idle before q) (wanted : q.cancelled = false) :
    ((∀ after p, Run idle (before ++ .cancel :: after) p → itemsOf idle after = []) ↔
      q.reader.pending = [] ∧ q.stage ≠ .waiting) ∧
    ∀ after p, Run idle (before ++ .cancel :: after) p →
      itemsOf idle after <+: owed idle q after ∧
      (p.stage = .ended → itemsOf idle after = owed idle q after) ∧
      after.countP Move.isOfBody ≤ (if q.stage = .waiting then 1 else 0) ∧
      after.length ≤ (owed idle q after).length + 2 := by
  have hcancel : Step idle q .cancel { q with cancelled := true } := .cancel wanted
  -- what happens after the cancellation starts from this one state
  have hafter : ∀ after p, Run idle (before ++ .cancel :: after) p →
      itemsOf idle after <+: owed idle q after ∧
      (p.stage = .ended → itemsOf idle after = owed idle q after) ∧
      after.countP Move.isOfBody ≤ (if q.stage = .waiting then 1 else 0) ∧
      after.length ≤ (owed idle q after).length + 2 := by
    intro after p run'
    obtain ⟨q', hrun, hleads⟩ := run_append_iff.1 run'
    obtain rfl := hrun.unique run
    cases hleads with
    | step step rest =>
      obtain rfl := step.unique hcancel
      exact rest.of_cancelled rfl fun waiting => (run.of_waiting waiting).1
  refine ⟨⟨fun silent => ⟨?_, ?_⟩, ?_⟩, hafter⟩
  · cases hpending : q.reader.pending with
    | nil => rfl
    | cons x rest =>
      have hlooking : q.stage = .looking := by
        cases hstage : q.stage with
        | looking => rfl
        | waiting => exact absurd (hpending.symm.trans (run.of_waiting hstage).1) (by simp)
        | ended => exact absurd (hpending.symm.trans (run.of_ended hstage)) (by simp)
      have hhand := (run.step hcancel).step (.hand hlooking hpending)
      have hitems := silent [.hand x] _ (by simpa using hhand)
      cases hitems
  · intro waiting
    have hsilence := (run.step hcancel).step (.fail (r := .silent) waiting rfl)
    have hitems := silent [.read .silent] _ (by simpa using hsilence)
    cases hitems
  · rintro ⟨empty, notWaiting⟩ after p run'
    have howed : owed idle q after = [] := by
      unfold owed
      split <;> simp_all
    have hprefix := (hafter after p run').1
    rwa [howed, List.prefix_nil] at hprefix

/-- The silence of the body is still reported to a caller that cancels while it lasts. -/
theorem Run.after_cancel_silence :
    ∃ p, Run 30 ([.wait] ++ .cancel :: [.read .silent, .stop]) p ∧ p.stage = .ended ∧
      itemsOf 30 [.read .silent, .stop] = [.error (ReplyReader.idleFailure 30)] ∧
      ¬ ∀ after p, Run 30 ([.wait] ++ .cancel :: after) p → itemsOf 30 after = [] := by
  have hwait : Run 30 [.wait] { stage := .waiting } := .step .start (.wait rfl rfl rfl rfl)
  have hsilence := (hwait.step (.cancel rfl)).step (.fail (r := .silent) rfl rfl)
  have hstop := hsilence.step (.stop rfl rfl (.inl rfl))
  obtain ⟨silent, given⟩ := hwait.after_cancel rfl
  exact ⟨_, hstop, rfl, (given _ _ hstop).2.1 rfl, fun h => (silent.1 h).2 rfl⟩

/-- Two chunks. -/
def twoChunks : List UInt8 :=
  Text.Utf8.encode ("data: \x7b\"type\":\"delta\",\"delta\":\"a\"\x7d\n" ++
    "data: \x7b\"type\":\"delta\",\"delta\":\"b\"\x7d\n").toList

/-- A caller that cancels may still be given an item: both chunks come in one read, and after
the first of them the caller cancels. -/
theorem item_after_cancel :
    ¬ ∀ (idle : Nat) (before after : List Move) (p : Pulled),
      Run idle (before ++ .cancel :: after) p → itemsOf idle after = [] := by
  intro silent
  have hwait : Run 30 [.wait] { stage := .waiting } := .step .start (.wait rfl rfl rfl rfl)
  have hread := hwait.step (.read twoChunks rfl)
  have hqueued : (({} : ReplyReader).feed twoChunks).pending =
      [.ok (.delta "a"), .ok (.delta "b")] := by
    decide +kernel
  have hfirst := hread.step (.hand rfl hqueued)
  have hsecond := (hfirst.step (.cancel rfl)).step (.hand rfl rfl)
  have hitems := silent 30 [.wait, .read (.bytes twoChunks), .hand (.ok (.delta "a"))]
    [.hand (.ok (.delta "b"))] _ hsecond
  cases hitems

end ChatGateway.Sse.Pulled
