import Mathlib
import ChatGateway.Voice
import ChatGateway.Proofs.History

/-!
# Calls that interleave

A guard gives turns and takes them back in one go.  Here each call takes its steps one by one,
and between any two steps of one call there may be steps of others: a start looks at whether
recording is on before it waits for its turn, recording counts as on only some time after the
recorder has started, and counts as off before the recorder is asked to stop.  Who waits may get
the turn in any order, and the recorder answers whatever and whenever it likes.

The rules are those of `Step`, and a `Path` collects what can be seen of them.  Beside them
stands what the calls do when they are carried out one at a time, `OneByOne`.
-/

set_option autoImplicit false

namespace ChatGateway.Voice

/-- What becomes of a job. -/
abbrev Outcome := Except RecorderFailure Unit

/-- What can be seen of the calls and of the recorder. -/
inductive Event
  | begun (call : Call)
  | asked (call : Nat) (job : Job)
  | recorded (call : Nat) (job : Job) (outcome : Outcome)
  | answered (call : Nat) (answer : Answer)

/-- How far a call is that has the turn. -/
inductive Stage
  /-- A toggle that looks at what there is to do. -/
  | choosing
  /-- It does the job unless there is no need for it. -/
  | chosen (job : Job)
  /-- Recording counts as off, and the recorder has not been asked to stop. -/
  | cleared
  | asked (job : Job)
  /-- The recorder has started, and recording does not count as on. -/
  | started
  | done (answer : Answer)

/-- Where a call is. -/
inductive Status
  | begun
  | queued
  /-- It has the turn. -/
  | served
  /-- It has its answer and no turn, and has not returned. -/
  | leaving (answer : Answer)
  | returned (answer : Answer)

/-- The calls around one recorder. -/
structure Floor where
  active : Bool := false
  /-- The call that has the turn, and how far it is. -/
  turn : Option (Call × Stage) := none
  /-- The calls that have come in, by their numbers. -/
  calls : Nat → Option (Request × Status) := fun _ => none

/-- What a call does first when it gets the turn. -/
def Request.entry : Request → Stage
  | .start => .chosen .start
  | .stop => .chosen .stop
  | .toggle => .choosing

/-- How far a call is when the recorder has answered. -/
def Request.afterJob (request : Request) : Job → Outcome → Stage
  | _, .error f => .done (.error f)
  | .start, .ok () => .started
  | .stop, .ok () => .done (.ok (Guard.doneAnswer request .stop))

namespace Floor

/-- The floor after a call has gone on. -/
def move (f : Floor) (call : Call) (status : Status) : Floor :=
  { f with calls := Function.update f.calls call.id (some (call.request, status)) }

/-- One step of one call, or of the recorder, and what is seen of it. -/
inductive Step (f : Floor) : Option Event → Floor → Prop
  | begin (call : Call) (fresh : f.calls call.id = none) :
      Step f (some (.begun call)) (f.move call .begun)
  /-- A start that finds recording on needs no turn. -/
  | seenOn {id : Nat} (there : f.calls id = some (.start, .begun)) (on : f.active = true) :
      Step f none (f.move ⟨id, .start⟩ (.leaving (.ok false)))
  | seenOff {id : Nat} (there : f.calls id = some (.start, .begun)) (off : f.active = false) :
      Step f none (f.move ⟨id, .start⟩ .queued)
  | queue {call : Call} (there : f.calls call.id = some (call.request, .begun))
      (locks : call.request ≠ .start) : Step f none (f.move call .queued)
  | enter {call : Call} (there : f.calls call.id = some (call.request, .queued))
      (free : f.turn = none) :
      Step f none { f.move call .served with turn := some (call, call.request.entry) }
  | choose {call : Call} (there : f.turn = some (call, .choosing)) :
      Step f none
        { f with turn := some (call, .chosen (if f.active then .stop else .start)) }
  /-- What is asked for holds already.  A toggle does not look at that. -/
  | needless {call : Call} {job : Job} (there : f.turn = some (call, .chosen job))
      (holds : f.active = true ↔ job = .start) :
      Step f none
        { f with
          turn := some (call, .done (.ok (decide (call.request = .toggle ∧ job = .start)))) }
  | askStart {call : Call} (there : f.turn = some (call, .chosen .start))
      (off : f.active = false) :
      Step f (some (.asked call.id .start)) { f with turn := some (call, .asked .start) }
  | clear {call : Call} (there : f.turn = some (call, .chosen .stop)) (on : f.active = true) :
      Step f none { f with active := false, turn := some (call, .cleared) }
  | askStop {call : Call} (there : f.turn = some (call, .cleared)) :
      Step f (some (.asked call.id .stop)) { f with turn := some (call, .asked .stop) }
  | record {call : Call} {job : Job} (there : f.turn = some (call, .asked job))
      (outcome : Outcome) :
      Step f (some (.recorded call.id job outcome))
        { f with turn := some (call, call.request.afterJob job outcome) }
  | mark {call : Call} (there : f.turn = some (call, .started)) :
      Step f none
        { f with
          active := true
          turn := some (call, .done (.ok (Guard.doneAnswer call.request .start))) }
  | leave {call : Call} {answer : Answer} (there : f.turn = some (call, .done answer)) :
      Step f none { f.move call (.leaving answer) with turn := none }
  | answer {call : Call} {answer : Answer}
      (there : f.calls call.id = some (call.request, .leaving answer)) :
      Step f (some (.answered call.id answer)) (f.move call (.returned answer))

/-- What can happen from `f` on, with what is seen of it. -/
inductive Path (f : Floor) : List Event → Floor → Prop
  | refl : Path f [] f
  | tail {events : List Event} {f' f'' : Floor} {e : Option Event} (path : Path f events f')
      (step : Step f' e f'') : Path f (events ++ e.toList) f''

/-- No call is in progress: each has returned. -/
def Quiet (f : Floor) : Prop :=
  f.turn = none ∧
    ∀ id request status, f.calls id = some (request, status) → ∃ a, status = .returned a

section path

variable {f f' f'' : Floor} {events : List Event}

/-- Paths follow one another. -/
theorem Path.trans {more : List Event} (path : Path f events f') (rest : Path f' more f'') :
    Path f (events ++ more) f'' := by
  induction rest with
  | refl => rwa [List.append_nil]
  | tail _ step ih =>
    rw [← List.append_assoc]
    exact .tail ih step

/-- A step is a path of its own. -/
theorem Step.path {e : Option Event} (step : Step f e f') : Path f e.toList f' := by
  have h : Path f ([] ++ e.toList) f' := .tail .refl step
  rwa [List.nil_append] at h

/-- A step that is not seen. -/
theorem Path.silent (path : Path f events f') (step : Step f' none f'') : Path f events f'' := by
  have h := path.tail step
  rwa [Option.toList_none, List.append_nil] at h

end path

/-! ## Where calls are -/

section move

variable (f : Floor) (call : Call) (status : Status)

/-- A call that goes on leaves the turn alone. -/
@[simp]
theorem move_turn : (f.move call status).turn = f.turn := rfl

/-- A call that goes on is where it has gone. -/
@[simp]
theorem move_calls_self : (f.move call status).calls call.id = some (call.request, status) := by
  simp [move]

/-- A call that goes on leaves the others where they are. -/
theorem move_calls_of_ne {id : Nat} (h : id ≠ call.id) :
    (f.move call status).calls id = f.calls id := by
  simp [move, h]

end move

end Floor

/-! ## One call at a time -/

/-- Whether recording is on after a job. -/
def Job.leaves : Job → Outcome → Bool
  | .start, .ok () => true
  | _, _ => false

/-- What a call asks the recorder for when it is carried out alone; nothing if what it wants
holds already. -/
def Request.job? (on : Bool) : Request → Option Job
  | .start => if on then none else some .start
  | .stop => if on then some .stop else none
  | .toggle => if on then some .stop else some .start

/-- What the caller gets after a job: for a start that it started, for a stop that it stopped,
for a toggle whether recording is on. -/
def Request.answer : Request → Job → Outcome → Answer
  | _, _, .error f => .error f
  | .toggle, job, .ok () => .ok (job.leaves (.ok ()))
  | _, _, .ok () => .ok true

/-- A job that is done well gives a request the answer of the job. -/
theorem Request.answer_ok (request : Request) (job : Job) :
    request.answer job (.ok ()) = .ok (Guard.doneAnswer request job) := by
  cases request <;> cases job <;> rfl

/-- A job that the recorder has done for a call. -/
structure Recording where
  call : Nat
  job : Job
  outcome : Outcome

/-- The recorder is asked for a job, and then has done it. -/
def Recording.events (r : Recording) : List Event :=
  [.asked r.call r.job, .recorded r.call r.job r.outcome]

/-- Calls that are carried out one at a time, with their answers; what the recorder does for
them; and whether recording is on afterwards. -/
inductive OneByOne : List (Call × Answer) → List Recording → Bool → Prop
  | nobody : OneByOne [] [] false
  | needless {order : List (Call × Answer)} {recordings : List Recording} {on : Bool}
      (before : OneByOne order recordings on) {call : Call}
      (holds : call.request.job? on = none) :
      OneByOne (order ++ [(call, .ok false)]) recordings on
  | work {order : List (Call × Answer)} {recordings : List Recording} {on : Bool}
      (before : OneByOne order recordings on) {call : Call} {job : Job}
      (needed : call.request.job? on = some job) (outcome : Outcome) :
      OneByOne (order ++ [(call, call.request.answer job outcome)])
        (recordings ++ [⟨call.id, job, outcome⟩]) (job.leaves outcome)

/-- Whether the last job was a start that succeeded. -/
def endsStarted (recordings : List Recording) : Bool :=
  match recordings.getLast? with
  | some r => r.job.leaves r.outcome
  | none => false

/-- The last recording decides whether recording is left on. -/
theorem endsStarted_concat (recordings : List Recording) (r : Recording) :
    endsStarted (recordings ++ [r]) = r.job.leaves r.outcome := by
  simp [endsStarted]

/-- A job is a stop exactly if recording is on. -/
theorem Request.job?_eq_stop {on : Bool} {request : Request} {job : Job}
    (h : request.job? on = some job) : job = .stop ↔ on = true := by
  cases request <;> cases on <;> cases job <;> simp_all [job?]

namespace OneByOne

variable {order : List (Call × Answer)} {recordings : List Recording} {on : Bool}

/-- Recording is on exactly if the last job was a start that succeeded. -/
theorem on_eq (h : OneByOne order recordings on) : on = endsStarted recordings := by
  induction h with
  | nobody => rfl
  | needless _ _ ih => exact ih
  | work _ _ _ _ => rw [endsStarted_concat]

/-- The recorder is asked to stop exactly when it was started last and has been running
since. -/
theorem stop_iff (h : OneByOne order recordings on) :
    ∀ before r after, recordings = before ++ r :: after →
      (r.job = .stop ↔ endsStarted before = true) := by
  induction h with
  | nobody => simp
  | needless _ _ ih => exact ih
  | @work _ recordings on earlier _ job needed outcome ih =>
    intro before r after heq
    rcases concat_eq_append_cons.1 heq with ⟨-, rfl, rfl⟩ | ⟨rest, -, hrecordings⟩
    · rw [← earlier.on_eq]
      exact Request.job?_eq_stop needed
    · exact ih before r rest hrecordings

end OneByOne

end ChatGateway.Voice
