import ChatGateway.Board.State
import ChatGateway.Failure

/-!
# Carrying out intents

Users say what they want as intents.  The executor turns an intent into effects on the
board and, where the gateway has to be asked, into a fetch.  What a fetch brings comes
back later as events, in any order; an answer to a selection counts only as long as its
request is the current one.
-/

set_option autoImplicit false

namespace ChatGateway.Board

/-- What a user wants of the board. -/
inductive Intent
  | load
  /-- A load that does not accept a remembered list. -/
  | refresh
  | select (id : String)
  | clearSelection
  | clearErrors
deriving DecidableEq, Repr

/-- What observers are told once. -/
inductive Label
  | loadCompleted
  | selectionCompleted (id : String)
  | errorOccurred (text : String)
deriving DecidableEq, Repr

/-- What is to be done, in order. -/
inductive Effect
  | change (c : Change)
  | label (l : Label)
deriving DecidableEq, Repr

/-- What the gateway is asked for. -/
inductive Fetch
  | list (force : Bool)
  | session (request : Nat) (id : String)
deriving DecidableEq, Repr

/-- What a fetch brings. -/
inductive Event
  /-- One result of a list fetch. -/
  | listed (result : Except Failure (List Session))
  /-- A list fetch is over: whether it brought any result, and whether the last one was
  a list. -/
  | finished (received lastOk : Bool)
  /-- The result of a session fetch. -/
  | answered (request : Nat) (id : String) (result : Except Failure Session)

/-- The session fetch that a selection waits for. -/
structure Selection where
  request : Nat
  id : String
deriving DecidableEq, Repr

/-- What the executor remembers between intents. -/
structure Executor where
  selection : Option Selection := none
  lastRequest : Nat := 0
deriving DecidableEq, Repr

/-- What an intent leads to. -/
structure Outcome where
  executor : Executor
  effects : List Effect := []
  /-- What the gateway is to be asked for. -/
  fetch : Option Fetch := none
  /-- The session fetch that is no longer wanted. -/
  cancelled : Option Nat := none
deriving DecidableEq, Repr

/-- The effects of a selection that succeeded. -/
def selectedEffects (s : Session) : List Effect :=
  [.change (.selected s), .label (.selectionCompleted s.id)]

/-- The effects of a failure. -/
def failureEffects (text : String) : List Effect :=
  [.change (.loadFailed text), .label (.errorOccurred text)]

/-- What is told about a list that could not be loaded. -/
def listFailure (f : Failure) : String :=
  "Failed to load sessions: " ++ f.describe

/-- What is told about a session that could not be loaded. -/
def sessionFailure (id : String) (f : Failure) : String :=
  "Failed to load session " ++ id ++ ": " ++ f.describe

namespace Executor

/-- The request that is current. -/
def pending (x : Executor) : Option Nat :=
  x.selection.map Selection.request

/-- Selects the session called `id` on the board `b`: at once if it is selected already
or in the list, else by a fetch, unless one for it is under way. -/
def select (x : Executor) (b : Board) (id : String) : Outcome :=
  if b.isSelected id then
    { executor := { x with selection := none }
      effects := [.label (.selectionCompleted id)]
      cancelled := x.pending }
  else if x.selection.map Selection.id = some id then { executor := x }
  else
    match b.find? id with
    | some s =>
      { executor := { x with selection := none }
        effects := selectedEffects s
        cancelled := x.pending }
    | none =>
      let request := x.lastRequest + 1
      { executor := ⟨some ⟨request, id⟩, request⟩
        fetch := some (.session request id)
        cancelled := x.pending }

/-- What an intent leads to on the board `b`. -/
def execute (x : Executor) (b : Board) : Intent → Outcome
  | .load => { executor := x, effects := [.change .loadingStarted], fetch := some (.list false) }
  | .refresh => { executor := x, effects := [.change .loadingStarted], fetch := some (.list true) }
  | .select id => x.select b id
  | .clearSelection =>
    { executor := { x with selection := none }
      effects := [.change .selectionCleared]
      cancelled := x.pending }
  | .clearErrors => { executor := x, effects := [.change .errorsCleared] }

/-- The effects of an event. -/
def handle (x : Executor) : Event → List Effect × Executor
  | .listed (.ok sessions) => ([.change (.loaded sessions)], x)
  | .listed (.error f) =>
    (if f.isCancelled then [] else failureEffects (listFailure f), x)
  | .finished received lastOk =>
    (if !received then failureEffects (listFailure .emptyResponse)
     else if lastOk then [.label .loadCompleted]
     else [], x)
  | .answered request id result =>
    if x.pending = some request then
      let x := { x with selection := none }
      match result with
      | .ok s => (selectedEffects s, x)
      | .error f =>
        (if f.isCancelled then [] else failureEffects (sessionFailure id f), x)
    else ([], x)

end Executor

/-- The changes among some effects. -/
def changes : List Effect → List Change
  | [] => []
  | .change c :: es => c :: changes es
  | .label _ :: es => changes es

/-- The board after some effects. -/
def applyEffects (b : Board) (es : List Effect) : Board :=
  (changes es).foldl apply b

end ChatGateway.Board
