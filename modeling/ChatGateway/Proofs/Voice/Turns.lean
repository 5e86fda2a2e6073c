import Mathlib
import ChatGateway.Proofs.Voice.Calls

/-!
# A guard that gives turns first come, first served

What a guard does when calls come in and the recorder answers is one way for the steps of the
calls to follow each other: each call goes on as far as it can before another one moves.
-/

set_option autoImplicit false

namespace ChatGateway.Voice

/-- What is done with a guard. -/
inductive Use
  | begin (call : Call)
  | finish (outcome : Outcome)

/-- The numbers of the calls that come in. -/
def Use.numbers : List Use → List Nat
  | [] => []
  | .begin call :: uses => call.id :: numbers uses
  | .finish _ :: uses => numbers uses

/-- An output, as it is seen from outside. -/
def Output.event : Output → Event
  | .asked call job => .asked call job
  | .answered call answer => .answered call answer

namespace Guard

/-- What can be seen of one use. -/
def use (g : Guard) : Use → Guard × List Event
  | .begin call =>
    let (g', outputs) := g.begin call
    (g', .begun call :: outputs.map Output.event)
  | .finish outcome =>
    match g.holder with
    | none => (g, [])
    | some (call, job) =>
      let (g', outputs) := g.finish outcome
      (g', .recorded call.id job outcome :: outputs.map Output.event)

/-- What can be seen of some uses, one after the other. -/
def useAll (g : Guard) : List Use → Guard × List Event
  | [] => (g, [])
  | u :: uses =>
    let (g', events) := g.use u
    let (g'', more) := g'.useAll uses
    (g'', events ++ more)

/-- The calls that have come in and have no answer yet. -/
def pending (g : Guard) : List Call := (g.holder.map Prod.fst).toList ++ g.waiting

/-- The first move of a call is its job, or an answer at once when it needs none. -/
theorem firstMove_eq (active : Bool) (request : Request) :
    firstMove active request =
      match request.job? active with
      | some job => (.inl job, false)
      | none => (.inr false, active) := by
  cases request <;> cases active <;> rfl

end Guard

namespace Floor

variable {f f' : Floor} {call : Call}

/-- Of two moves of one call the last one counts. -/
theorem move_move (f : Floor) (call : Call) (first last : Status) :
    (f.move call first).move call last = f.move call last := by
  simp [move]

/-- All calls but these have returned. -/
def Only (f : Floor) (ids : List Nat) : Prop :=
  ∀ id request status, f.calls id = some (request, status) →
    id ∈ ids ∨ ∃ a, status = .returned a

/-- A call that goes on adds nobody but itself to those that have not returned. -/
theorem Only.move {ids ids' : List Nat} {status : Status} (h : f.Only ids)
    (own : call.id ∈ ids' ∨ ∃ a, status = .returned a)
    (others : ∀ id ∈ ids, id = call.id ∨ id ∈ ids') : (f.move call status).Only ids' := by
  intro id request now hnow
  by_cases hid : id = call.id
  · rw [hid, move_calls_self] at hnow
    obtain ⟨-, rfl⟩ := Prod.mk.inj (Option.some.inj hnow)
    exact hid ▸ own
  · rw [move_calls_of_ne _ _ _ hid] at hnow
    exact (h id request now hnow).imp_left fun hmem => (others id hmem).resolve_left hid

/-- Calls that wait do so while another one goes on. -/
theorem queued_move {waiting : List Call} (status : Status)
    (queued : ∀ other ∈ waiting, f.calls other.id = some (other.request, .queued))
    (apart : ∀ other ∈ waiting, other.id ≠ call.id) :
    ∀ other ∈ waiting, (f.move call status).calls other.id = some (other.request, .queued) := by
  intro other hother
  rw [move_calls_of_ne _ _ _ (apart other hother)]
  exact queued other hother

/-- A call that has its answer hands the turn on and returns. -/
theorem path_answered {answer : Answer} (there : f.turn = some (call, .done answer)) :
    Path f [.answered call.id answer] { f.move call (.returned answer) with turn := none } := by
  have hleave := (Step.leave there).path
  have hreturn := hleave.tail (@Step.answer _ call _ (move_calls_self f call (.leaving answer)))
  simpa [move] using hreturn

/-- A call that has the turn chooses its job without being seen. -/
theorem path_chosen {job : Job} (there : f.turn = some (call, call.request.entry))
    (needed : call.request.job? f.active = some job) :
    Path f [] { f with turn := some (call, .chosen job) } := by
  obtain ⟨active, turn, calls⟩ := f
  obtain ⟨id, request⟩ := call
  obtain rfl : turn = _ := there
  cases request with
  | toggle =>
    have hchoose := (@Step.choose ⟨active, _, calls⟩ ⟨id, .toggle⟩ rfl).path
    cases active <;> cases needed <;> exact hchoose
  | start => cases active <;> cases needed; exact .refl
  | stop => cases active <;> cases needed; exact .refl

/-- A call that has the turn asks for the job that it needs. -/
theorem path_asked {job : Job} (there : f.turn = some (call, call.request.entry))
    (needed : call.request.job? f.active = some job) :
    Path f [.asked call.id job]
      { f with active := false, turn := some (call, .asked job) } := by
  have hchosen := path_chosen there needed
  cases job with
  | start =>
    have off : f.active = false := by
      have := Request.job?_eq_stop needed
      simpa using this
    have hask := hchosen.tail (.askStart rfl off)
    simpa [off] using hask
  | stop =>
    have on : f.active = true := (Request.job?_eq_stop needed).1 rfl
    exact (hchosen.silent (.clear rfl on)).tail (.askStop rfl)

/-- A call that has the turn and needs nothing has its answer. -/
theorem path_needless (there : f.turn = some (call, call.request.entry))
    (needless : call.request.job? f.active = none) :
    Path f [.answered call.id (.ok false)]
      { f.move call (.returned (.ok false)) with turn := none } := by
  obtain ⟨active, turn, calls⟩ := f
  obtain ⟨id, request⟩ := call
  obtain rfl : turn = _ := there
  have hdone : Path ⟨active, some (⟨id, request⟩, request.entry), calls⟩ []
      ⟨active, some (⟨id, request⟩, .done (.ok false)), calls⟩ := by
    cases request with
    | toggle => cases active <;> cases needless
    | start =>
      cases active <;> cases needless
      exact (@Step.needless _ ⟨id, .start⟩ .start rfl (by simp)).path
    | stop =>
      cases active <;> cases needless
      exact (@Step.needless _ ⟨id, .stop⟩ .stop rfl (by simp)).path
  exact hdone.trans (path_answered rfl)

/-- A call whose job is done has its answer. -/
theorem path_recorded {job : Job} (there : f.turn = some (call, .asked job)) (outcome : Outcome) :
    Path f
      [.recorded call.id job outcome, .answered call.id (call.request.answer job outcome)]
      { f.move call (.returned (call.request.answer job outcome)) with
        active := job.leaves outcome || f.active
        turn := none } := by
  have hrecord := (Step.record there outcome).path
  have hdone : Path f [.recorded call.id job outcome]
      { f with
        active := job.leaves outcome || f.active
        turn := some (call, .done (call.request.answer job outcome)) } := by
    cases outcome with
    | error failure => cases job <;> exact hrecord
    | ok =>
      rw [Request.answer_ok]
      cases job with
      | stop => exact hrecord
      | start => exact hrecord.silent (.mark rfl)
  exact hdone.trans (path_answered rfl)

end Floor

/-- The calls stand where the guard has them. -/
structure Follows (f : Floor) (g : Guard) : Prop where
  active : f.active = g.active
  turn : f.turn = g.holder.map fun h => (h.1, .asked h.2)
  idle : g.holder = none → g.waiting = []
  served : ∀ call job, g.holder = some (call, job) → f.calls call.id = some (call.request, .served)
  waiting : ∀ call ∈ g.waiting, f.calls call.id = some (call.request, .queued)
  nodup : (g.pending.map Call.id).Nodup
  others : ∀ id request status, f.calls id = some (request, status) →
    id ∈ g.pending.map Call.id ∨ ∃ a, status = .returned a

namespace Follows

/-- A new guard follows a new floor. -/
theorem start : Follows {} {} := by
  constructor <;> simp [Guard.pending]

/-- All calls but those a guard still has to answer have returned. -/
theorem only {f : Floor} {g : Guard} (h : Follows f g) : f.Only (g.pending.map Call.id) :=
  h.others

/-- A guard that is free has nothing under way. -/
theorem quiet {f : Floor} {g : Guard} (h : Follows f g) (free : g.holder = none) : f.Quiet := by
  refine ⟨by rw [h.turn, free]; rfl, fun id request status hcall => ?_⟩
  have hpending : g.pending = [] := by simp [Guard.pending, free, h.idle free]
  have := h.others id request status hcall
  simpa [hpending] using this

/-- The calls that wait get their turns. -/
theorem serve {waiting : List Call} :
    ∀ {f : Floor}, f.turn = none →
      (∀ call ∈ waiting, f.calls call.id = some (call.request, .queued)) →
      (waiting.map Call.id).Nodup → f.Only (waiting.map Call.id) →
      ∃ f', Floor.Path f ((Guard.serve f.active waiting).2.map Output.event) f' ∧
        Follows f' (Guard.serve f.active waiting).1 := by
  induction waiting with
  | nil =>
    intro f free _ _ others
    exact ⟨f, .refl, rfl, free, fun _ => rfl, by simp [Guard.serve], by simp [Guard.serve],
      List.nodup_nil, others⟩
  | cons call waiting ih =>
    intro f free queued nodup others
    obtain ⟨hfirst, hrest⟩ := List.nodup_cons.1 nodup
    have hne (other : Call) (hother : other ∈ waiting) : other.id ≠ call.id := fun heq =>
      hfirst (heq ▸ List.mem_map_of_mem hother)
    have henter := (Floor.Step.enter (queued call List.mem_cons_self) free).path
    have hqueued (status : Status) := Floor.queued_move status
      (fun other hother => queued other (List.mem_cons_of_mem _ hother)) hne
    rw [Guard.serve, Guard.firstMove_eq]
    cases hjob : call.request.job? f.active with
    | some job =>
      -- the call keeps the turn while the recorder is at work, and the others go on waiting
      refine ⟨_, henter.trans (Floor.path_asked rfl hjob), rfl, rfl, by simp, ?_, ?_, nodup, ?_⟩
      · rintro other job' heq
        obtain ⟨rfl, rfl⟩ := Prod.mk.inj (Option.some.inj heq)
        exact Floor.move_calls_self _ _ _
      · exact hqueued .served
      · exact others.move (.inl List.mem_cons_self) fun _ => .inr
    | none =>
      -- the call has its answer at once, and the next one gets the turn
      have hneedless := henter.trans (Floor.path_needless rfl hjob)
      have hcalls : ({ f.move call .served with turn := some (call, call.request.entry) } :
          Floor).move call (.returned (.ok false)) =
          { f.move call (.returned (.ok false)) with
            turn := some (call, call.request.entry) } := by
        simp [Floor.move]
      rw [hcalls] at hneedless
      obtain ⟨f', hpath, hfollows⟩ := ih
        (f := { f.move call (.returned (.ok false)) with turn := none }) rfl
        (hqueued (.returned (.ok false))) hrest
        (others.move (.inr ⟨_, rfl⟩) fun _ => List.mem_cons.1)
      exact ⟨f', hneedless.trans hpath, hfollows⟩

/-- A number that was never used is none of those that a guard has to answer. -/
theorem ne_of_fresh {f : Floor} {g : Guard} (h : Follows f g) {id : Nat}
    (fresh : f.calls id = none) : ∀ call ∈ g.pending, call.id ≠ id := by
  rintro call hcall rfl
  rcases List.mem_append.1 hcall with hholds | hwaits
  · obtain ⟨⟨_, job⟩, hholder, rfl⟩ := Option.map_eq_some_iff.1 (Option.mem_toList.1 hholds)
    rw [h.served _ job hholder] at fresh
    cases fresh
  · rw [h.waiting call hwaits] at fresh
    cases fresh

/-- The calls of the guard stand where they are while a new one goes on. -/
theorem served_move {f : Floor} {g : Guard} {call : Call} (h : Follows f g)
    (fresh : f.calls call.id = none) (status : Status) (other : Call) (job : Job)
    (holds : g.holder = some (other, job)) :
    (f.move call status).calls other.id = some (other.request, .served) := by
  have hpending : other ∈ g.pending := List.mem_append_left _ (by simp [holds])
  rw [Floor.move_calls_of_ne _ _ _ (h.ne_of_fresh fresh other hpending)]
  exact h.served other job holds

/-- Calls that wait still do when a new one comes in. -/
theorem waiting_move {f : Floor} {g : Guard} {call : Call} (h : Follows f g)
    (fresh : f.calls call.id = none) (status : Status) :
    ∀ other ∈ g.waiting, (f.move call status).calls other.id = some (other.request, .queued) :=
  Floor.queued_move status h.waiting fun other hother =>
    h.ne_of_fresh fresh other (List.mem_append_right _ hother)

/-- A start comes in that sees recording on. -/
theorem begin_seen {f : Floor} {g : Guard} {id : Nat} (h : Follows f g)
    (fresh : f.calls id = none) (on : g.active = true) :
    ∃ f', Floor.Path f (g.use (.begin ⟨id, .start⟩)).2 f' ∧
      Follows f' (g.use (.begin ⟨id, .start⟩)).1 := by
  let call : Call := ⟨id, .start⟩
  have huse : g.use (.begin call) = (g, [.begun call, .answered id (.ok false)]) := by
    simp [Guard.use, Guard.begin, call, on, Output.event]
  have hpath := ((Floor.Step.begin call fresh).path.silent
    (.seenOn (Floor.move_calls_self f call _) (h.active.trans on))).tail
      (@Floor.Step.answer _ call _ (Floor.move_calls_self _ _ _))
  rw [Floor.move_move, Floor.move_move] at hpath
  rw [huse]
  exact ⟨_, hpath, h.active, h.turn, h.idle, h.served_move fresh _, h.waiting_move fresh _,
    h.nodup, h.only.move (.inr ⟨_, rfl⟩) fun _ => .inr⟩

/-- A call comes in that waits for its turn. -/
theorem begin_waits {f : Floor} {g : Guard} {call : Call} (h : Follows f g)
    (fresh : f.calls call.id = none) {entry : Call × Job} (holds : g.holder = some entry) :
    Follows (f.move call .queued) { g with waiting := g.waiting ++ [call] } := by
  have hpending :
      Guard.pending { g with waiting := g.waiting ++ [call] } = g.pending ++ [call] := by
    simp [Guard.pending]
  refine ⟨h.active, h.turn, by simp [holds], h.served_move fresh _, ?_, ?_, ?_⟩
  · intro other hother
    rcases List.mem_append.1 hother with hwaits | hlast
    · exact h.waiting_move fresh _ other hwaits
    · obtain rfl := List.mem_singleton.1 hlast
      exact Floor.move_calls_self _ _ _
  · rw [hpending, List.map_append, List.map_singleton, List.nodup_append]
    refine ⟨h.nodup, List.nodup_singleton _, ?_⟩
    rintro _ hold _ hnew rfl
    obtain ⟨other, hother, heq⟩ := List.mem_map.1 hold
    exact h.ne_of_fresh fresh other hother (heq.trans (List.mem_singleton.1 hnew))
  · rw [hpending, List.map_append]
    exact h.only.move (.inl (by simp)) fun _ hid => .inr (List.mem_append_left _ hid)

/-- A call comes in. -/
theorem begin {f : Floor} {g : Guard} {call : Call} (h : Follows f g)
    (fresh : f.calls call.id = none) :
    ∃ f', Floor.Path f (g.use (.begin call)).2 f' ∧ Follows f' (g.use (.begin call)).1 := by
  by_cases hseen : call.request = .start ∧ g.active = true
  · obtain ⟨id, request⟩ := call
    obtain ⟨rfl, hon⟩ : request = .start ∧ g.active = true := hseen
    exact h.begin_seen fresh hon
  have hqueue : Floor.Path f [.begun call] (f.move call .queued) := by
    have hbegin := (Floor.Step.begin call fresh).path
    have hmove := Floor.move_move f call .begun .queued
    obtain ⟨id, request⟩ := call
    by_cases hstart : request = .start
    · subst hstart
      have hoff : f.active = false := by simpa [h.active] using hseen
      exact hmove ▸ hbegin.silent (.seenOff (Floor.move_calls_self _ _ _) hoff)
    · exact hmove ▸ hbegin.silent (.queue (Floor.move_calls_self _ _ _) hstart)
  cases hholder : g.holder with
  | none =>
    have hempty := h.idle hholder
    have hothers : f.Only [] := by simpa [Guard.pending, hholder, hempty] using h.only
    have huse : g.use (.begin call) = ((Guard.serve f.active [call]).1,
        .begun call :: (Guard.serve f.active [call]).2.map Output.event) := by
      simp [Guard.use, Guard.begin, hseen, hholder, hempty, h.active]
    obtain ⟨f', hpath, hfollows⟩ := @serve [call] (f.move call .queued)
      (by simp [h.turn, hholder]) (by simp) (by simp)
      (hothers.move (.inl (by simp)) fun _ hid => absurd hid List.not_mem_nil)
    rw [huse]
    exact ⟨f', hqueue.trans hpath, hfollows⟩
  | some entry =>
    have huse : g.use (.begin call) =
        ({ g with waiting := g.waiting ++ [call] }, [.begun call]) := by
      simp [Guard.use, Guard.begin, hseen, hholder]
    rw [huse]
    exact ⟨_, hqueue, h.begin_waits fresh hholder⟩

/-- The recorder has answered. -/
theorem finish {f : Floor} {g : Guard} (h : Follows f g) (outcome : Outcome) :
    ∃ f', Floor.Path f (g.use (.finish outcome)).2 f' ∧ Follows f' (g.use (.finish outcome)).1 := by
  cases hholder : g.holder with
  | none =>
    have huse : g.use (.finish outcome) = (g, []) := by simp [Guard.use, hholder]
    rw [huse]
    exact ⟨f, .refl, h⟩
  | some entry =>
    obtain ⟨call, job⟩ := entry
    let answer := call.request.answer job outcome
    let active := job.leaves outcome || f.active
    have huse : g.use (.finish outcome) = ((Guard.serve active g.waiting).1,
        .recorded call.id job outcome :: .answered call.id answer ::
          (Guard.serve active g.waiting).2.map Output.event) := by
      cases outcome with
      | error failure =>
        simp [Guard.use, Guard.finish, hholder, active, answer, Job.leaves, Request.answer,
          Output.event, h.active]
      | ok =>
        have hanswer : answer = .ok (Guard.doneAnswer call.request job) :=
          Request.answer_ok _ _
        cases job <;>
          simp [Guard.use, Guard.finish, hholder, active, hanswer, Job.leaves, Output.event,
            h.active]
    have hturn : f.turn = some (call, .asked job) := by rw [h.turn, hholder]; rfl
    have hrecorded := Floor.path_recorded hturn outcome
    have hnodup : (call.id :: g.waiting.map Call.id).Nodup := by
      simpa [Guard.pending, hholder] using h.nodup
    have hqueued := Floor.queued_move (.returned answer) h.waiting fun other hother heq =>
      (List.nodup_cons.1 hnodup).1 (heq ▸ List.mem_map_of_mem hother)
    have hothers : f.Only (call.id :: g.waiting.map Call.id) := by
      simpa [Guard.pending, hholder] using h.only
    obtain ⟨f', hpath, hfollows⟩ := serve
      (f := { f.move call (.returned answer) with active := active, turn := none }) rfl hqueued
      (List.nodup_cons.1 hnodup).2 (hothers.move (.inr ⟨_, rfl⟩) fun _ => List.mem_cons.1)
    rw [huse]
    exact ⟨f', hrecorded.trans hpath, hfollows⟩

end Follows

end ChatGateway.Voice
