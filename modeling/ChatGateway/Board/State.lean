import ChatGateway.Wire.Session

/-!
# The board of sessions

The board shows the known sessions, the selected one, whether a list is on its way and
what went wrong last.  It is changed by six kinds of changes; a failure leaves the list
and the selection as they are.
-/

set_option autoImplicit false

namespace ChatGateway

/-- What is known of the remote sessions. -/
structure Board where
  sessions : List Session := []
  selected : Option Session := none
  loading : Bool := false
  error : Option String := none
deriving DecidableEq, Repr

namespace Board

/-- A change of the board. -/
inductive Change
  | loadingStarted
  | loaded (sessions : List Session)
  | loadFailed (text : String)
  | selected (s : Session)
  | selectionCleared
  | errorsCleared
deriving DecidableEq, Repr

/-- The board after a change. -/
def apply (b : Board) : Change → Board
  | .loadingStarted => { b with loading := true, error := none }
  | .loaded sessions => { b with sessions := sessions, loading := false, error := none }
  | .loadFailed text => { b with loading := false, error := some text }
  | .selected s => { b with selected := some s, error := none }
  | .selectionCleared => { b with selected := none }
  | .errorsCleared => { b with error := none }

/-- The first session called `id`. -/
def find? (b : Board) (id : String) : Option Session :=
  b.sessions.find? fun s => s.id = id

/-- Whether the session called `id` is selected. -/
def isSelected (b : Board) (id : String) : Bool :=
  match b.selected with
  | none => false
  | some s => s.id = id

end Board

end ChatGateway
