import ChatGateway.Json.Record
import ChatGateway.Time.Parse

/-!
# Remote terminal sessions

A session is what the gateway reports of one remote terminal: its name, its state and
when it was created and last changed.
-/

set_option autoImplicit false

namespace ChatGateway

/-- The state of a remote terminal. -/
inductive SessionStatus
  | connected
  | disconnected
  | failed
deriving DecidableEq, Repr

namespace SessionStatus

/-- The name of a state. -/
def name : SessionStatus → String
  | .connected => "connected"
  | .disconnected => "disconnected"
  | .failed => "failed"

/-- The state called `s`. -/
def ofName (s : String) : Except Cause SessionStatus :=
  if s = "connected" then .ok .connected
  else if s = "disconnected" then .ok .disconnected
  else if s = "failed" then .ok .failed
  else .error (.unknownVariant s ["connected", "disconnected", "failed"])

end SessionStatus

/-- A remote terminal session. -/
structure Session where
  id : String
  name : String
  status : SessionStatus
  createdAt : Instant
  updatedAt : Instant
deriving DecidableEq, Repr

namespace Session

open ChatGateway.Json

/-- What has been read of a session. -/
structure Draft where
  id : Option String := none
  name : Option String := none
  status : Option SessionStatus := none
  createdAt : Option Instant := none
  updatedAt : Option Instant := none

/-- A time. -/
def readInstant : Reader Instant :=
  readStringAs "an RFC 3339 formatted date and time string" fun s =>
    (Instant.ofText s).mapError fun f => .rejected f.message

/-- A session with its five members. -/
def shape : Shape Draft Session where
  name := "Session"
  fields :=
    [.of "id" (·.id) (fun d x => { d with id := some x }) (readString "a string"),
     .of "name" (·.name) (fun d x => { d with name := some x }) (readString "a string"),
     .of "status" (·.status) (fun d x => { d with status := some x })
       (readChoice SessionStatus.ofName),
     .of "created_at" (·.createdAt) (fun d x => { d with createdAt := some x }) readInstant,
     .of "updated_at" (·.updatedAt) (fun d x => { d with updatedAt := some x }) readInstant]
  empty := {}
  finish := fun d => do
    let id ← required "id" d.id
    let name ← required "name" d.name
    let status ← required "status" d.status
    let createdAt ← required "created_at" d.createdAt
    let updatedAt ← required "updated_at" d.updatedAt
    pure ⟨id, name, status, createdAt, updatedAt⟩

/-- A list of sessions under its only member. -/
def listShape : Shape (Option (List Session)) (List Session) where
  name := "SessionsResponse"
  fields := [.of "sessions" (fun d => d) (fun _ x => some x) (readList shape.reader)]
  empty := none
  finish := required "sessions"

/-- The session that a text denotes. -/
def ofText (s : String) : Except Refusal Session :=
  (readWhole shape.reader s.toList).mapError (Fault.inText s.toList)

/-- The sessions that an answer of the gateway lists. -/
def listOfText (s : String) : Except Refusal (List Session) :=
  (readWhole listShape.reader s.toList).mapError (Fault.inText s.toList)

/-- The session as the gateway writes it. -/
def toJson (s : Session) : Json :=
  .obj [("id", .str s.id), ("name", .str s.name), ("status", .str s.status.name),
    ("created_at", .str s.createdAt.wireText), ("updated_at", .str s.updatedAt.wireText)]

end Session

end ChatGateway
