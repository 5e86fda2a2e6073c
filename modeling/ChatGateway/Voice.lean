/-!
# The guard of the voice recorder

Starting and stopping a recorder take time, and several calls may come at once.  A
guard lets one call at a time reach the recorder, first come first served.  A start
looks at once whether recording is on and then needs no turn.  The guard is off while
the recorder stops, and stays off when stopping fails.

A call is begun and, once the recorder has answered, finished; the outputs say what the
recorder was asked for and what the callers got.
-/

set_option autoImplicit false

namespace ChatGateway.Voice

/-- Why the recorder failed. -/
inductive RecorderFailure
  | startFailed (reason : String)
  | stopFailed (reason : String)
deriving DecidableEq, Repr

/-- The failure in words. -/
def RecorderFailure.describe : RecorderFailure → String
  | .startFailed reason => "Failed to start voice input: " ++ reason
  | .stopFailed reason => "Failed to stop voice input: " ++ reason

/-- What a caller wants. -/
inductive Request
  | start
  | stop
  | toggle
deriving DecidableEq, Repr

/-- What the recorder is asked for. -/
inductive Job
  | start
  | stop
deriving DecidableEq, Repr

/-- What a caller gets: for a start whether it started, for a stop whether it stopped,
for a toggle whether recording is on. -/
abbrev Answer := Except RecorderFailure Bool

/-- A call by its number, with what it wants. -/
structure Call where
  id : Nat
  request : Request
deriving DecidableEq, Repr

/-- The state of the guard. -/
structure Guard where
  active : Bool := false
  /-- The call that waits for the recorder. -/
  holder : Option (Call × Job) := none
  /-- The calls that wait for their turn, first come first. -/
  waiting : List Call := []
deriving DecidableEq, Repr

/-- What happens at the guard. -/
inductive Output
  | asked (call : Nat) (job : Job)
  | answered (call : Nat) (answer : Answer)

namespace Guard

/-- What a call whose turn it is does first: it asks the recorder, or it has its answer
already.  The second part says whether recording is on after that. -/
def firstMove (active : Bool) : Request → (Job ⊕ Bool) × Bool
  | .start => if active then (.inr false, true) else (.inl .start, false)
  | .stop => if active then (.inl .stop, false) else (.inr false, false)
  | .toggle => if active then (.inl .stop, false) else (.inl .start, false)

/-- Gives the calls that wait their turns, until one of them waits for the recorder. -/
def serve (active : Bool) : List Call → Guard × List Output
  | [] => ({ active := active }, [])
  | call :: waiting =>
    match firstMove active call.request with
    | (.inl job, active) =>
      ({ active := active, holder := some (call, job), waiting := waiting },
        [.asked call.id job])
    | (.inr answer, active) =>
      let (guard, outputs) := serve active waiting
      (guard, .answered call.id (.ok answer) :: outputs)

/-- A call comes in. -/
def begin (g : Guard) (call : Call) : Guard × List Output :=
  if call.request = .start ∧ g.active then (g, [.answered call.id (.ok false)])
  else
    match g.holder with
    | some _ => ({ g with waiting := g.waiting ++ [call] }, [])
    | none => serve g.active (g.waiting ++ [call])

/-- The answer of a call whose job the recorder has done. -/
def doneAnswer : Request → Job → Bool
  | .toggle, .stop => false
  | _, _ => true

/-- The recorder has answered the call that waits for it. -/
def finish (g : Guard) (outcome : Except RecorderFailure Unit) : Guard × List Output :=
  match g.holder with
  | none => (g, [])
  | some (call, job) =>
    let (active, answer) : Bool × Answer :=
      match outcome with
      | .error f => (g.active, .error f)
      | .ok () => ((if job = .start then true else g.active), .ok (doneAnswer call.request job))
    let (guard, outputs) := serve active g.waiting
    (guard, .answered call.id answer :: outputs)

end Guard

/-! ## A recorder with a script -/

/-- How a recorder does one job. -/
structure Take where
  /-- How long it takes. -/
  time : Nat := 0
  failure : Option RecorderFailure := none

/-- A recorder that does its starts and stops as laid down; those beyond succeed at
once. -/
structure Script where
  starts : List Take
  stops : List Take

/-- A guard with the number of starts and stops that its recorder was asked for. -/
structure Studio where
  guard : Guard := {}
  starts : Nat := 0
  stops : Nat := 0

namespace Studio

/-- Counts what the recorder is asked for. -/
def count (s : Studio) : List Output → Studio
  | [] => s
  | .asked _ .start :: outputs => { s with starts := s.starts + 1 }.count outputs
  | .asked _ .stop :: outputs => { s with stops := s.stops + 1 }.count outputs
  | .answered _ _ :: outputs => s.count outputs

/-- How the recorder does the job that it was asked for last. -/
def currentTake (script : Script) (s : Studio) : Job → Take
  | .start => (script.starts[s.starts - 1]?).getD {}
  | .stop => (script.stops[s.stops - 1]?).getD {}

/-- What the recorder gives. -/
def outcome (take : Take) : Except RecorderFailure Unit :=
  match take.failure with
  | some f => .error f
  | none => .ok ()

/-- Lets the recorder finish jobs one after the other: those that take no time, or all of
them.  The first argument bounds their number. -/
def work (script : Script) (all : Bool) : Nat → Studio → Studio × List Output
  | 0, s => (s, [])
  | fuel + 1, s =>
    match s.guard.holder with
    | none => (s, [])
    | some (_, job) =>
      let take := s.currentTake script job
      if all || take.time = 0 then
        let (guard, outputs) := s.guard.finish (outcome take)
        let (s, more) := work script all fuel ({ s with guard := guard }.count outputs)
        (s, outputs ++ more)
      else (s, [])

/-- Calls come in one after the other without waiting for each other. -/
def beginAll (script : Script) : Studio → List Call → Studio × List Output
  | s, [] => (s, [])
  | s, call :: calls =>
    let (guard, outputs) := s.guard.begin call
    let (s, more) := work script false (calls.length + 1) ({ s with guard := guard }.count outputs)
    let (s, rest) := beginAll script s calls
    (s, outputs ++ more ++ rest)

/-- The answer of a call among some outputs. -/
def answerOf (call : Nat) : List Output → Option Answer
  | [] => none
  | .asked _ _ :: outputs => answerOf call outputs
  | .answered c answer :: outputs => if c = call then some answer else answerOf call outputs

/-- Calls that come in at once, until all of them have their answers. -/
def perform (script : Script) (s : Studio) (requests : List Request) :
    List (Option Answer) × Studio :=
  let calls := (requests.zipIdx).map fun (request, id) => (⟨id, request⟩ : Call)
  let (s, outputs) := beginAll script s calls
  let (s, more) := work script true (calls.length + 1) s
  (calls.map fun call => answerOf call.id (outputs ++ more), s)

end Studio

end ChatGateway.Voice
