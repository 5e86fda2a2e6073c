import ChatGateway.Json.Record
import ChatGateway.Text.Blank

/-!
# Messages and requests

A message of a chat has one of three roles.  The messages of a thread that the gateway
stores may have any role; only those of the three roles become messages of a chat.
-/

set_option autoImplicit false

namespace ChatGateway

/-- Who a message is from. -/
inductive Role
  | user
  | assistant
  | system
deriving DecidableEq, Repr

namespace Role

/-- The name of a role. -/
def name : Role → String
  | .user => "user"
  | .assistant => "assistant"
  | .system => "system"

/-- The role called `s`. -/
def ofName? (s : String) : Option Role :=
  if s = "user" then some .user
  else if s = "assistant" then some .assistant
  else if s = "system" then some .system
  else none

/-- A role is found under its name. -/
theorem ofName?_name (r : Role) : ofName? r.name = some r := by
  cases r <;> decide

/-- Why `s` is no role. -/
def unknownMessage (s : String) : String :=
  "invalid message role: " ++ s

end Role

/-- A message of a chat. -/
structure Message where
  id : String
  role : Role
  content : String
deriving DecidableEq, Repr

/-- A message of a stored thread. -/
structure ThreadMessage where
  id : String
  role : String
  content : String
deriving DecidableEq, Repr

/-- A message of a request. -/
structure RequestMessage where
  role : String
  content : String
deriving DecidableEq, Repr

/-- A request for a reply. -/
structure ChatRequest where
  model : String
  messages : List RequestMessage
  thread : Option String
deriving DecidableEq, Repr

namespace Message

open ChatGateway.Json

/-- The digits at the front of a text. -/
def digitsOf (cs : List Char) : List Char :=
  cs.takeWhile isDigit

/-- A reason that ends in a place gives that place itself: the reason without the place,
and the place.  Only the first mention of a line counts, and its line and column have
to be numbers of 64 bits that end the text. -/
def statedPlace? : List Char → Option (List Char × Position)
  | [] => none
  | c :: cs =>
    match Text.dropPrefix? " at line ".toList (c :: cs) with
    | some rest =>
      let line := digitsOf rest
      match Text.dropPrefix? " column ".toList (rest.drop line.length) with
      | none => none
      | some rest =>
        let column := digitsOf rest
        if column.length = rest.length then
          match (String.ofList line).toNat?, (String.ofList column).toNat? with
          | some l, some k => if l ≤ wordMax ∧ k ≤ wordMax then some ([], ⟨l, k⟩) else none
          | _, _ => none
        else none
    | none => (statedPlace? cs).map fun (before, p) => (c :: before, p)

/-- The fault of a value that its owner rejects for a reason, where `rest` is left. -/
def rejection (reason : String) (rest : List Char) : Fault :=
  match statedPlace? reason.toList with
  | none => .pending (.rejected reason) rest
  | some (before, p) =>
    let cause := .rejected (String.ofList before)
    if p.line = 0 then .pending cause rest else ⟨cause, .stated p⟩

/-- A role by its name; the fault of an unknown one is settled by the message. -/
def readRole : Reader Role := fun cs =>
  match readString "a string" cs with
  | .error f => .error f
  | .ok (s, rest) =>
    match Role.ofName? s with
    | some r => .ok (r, rest)
    | none => .error (rejection (Role.unknownMessage s) rest)

/-- What has been read of a message. -/
structure Draft (ρ : Type) where
  id : Option String := none
  role : Option ρ := none
  content : Option String := none

/-- The three members of a message whose roles are read by `role`. -/
def fields {ρ : Type} (role : Reader ρ) : List (RecordField (Draft ρ)) :=
  [.of "id" (·.id) (fun d x => { d with id := some x }) (readString "a string"),
   .of "role" (·.role) (fun d x => { d with role := some x }) role,
   .of "content" (·.content) (fun d x => { d with content := some x })
     (readString "a string")]

/-- A finished message. -/
def finish {ρ α : Type} (make : String → ρ → String → α) (d : Draft ρ) : Except Cause α := do
  let id ← required "id" d.id
  let role ← required "role" d.role
  let content ← required "content" d.content
  pure (make id role content)

/-- A message of a chat. -/
def shape : Shape (Draft Role) Message where
  name := "ChatMessage"
  fields := fields readRole
  empty := {}
  finish := finish Message.mk

/-- The message that a text denotes. -/
def ofText (s : String) : Except Refusal Message :=
  (readWhole shape.reader s.toList).mapError (Fault.inText s.toList)

/-- The message as it is written. -/
def toJson (m : Message) : Json :=
  .obj [("id", .str m.id), ("role", .str m.role.name), ("content", .str m.content)]

end Message

namespace ThreadMessage

open ChatGateway.Json

/-- A message of a stored thread. -/
def shape : Shape (Message.Draft String) ThreadMessage where
  name := "ThreadMessage"
  fields := Message.fields (readString "a string")
  empty := {}
  finish := Message.finish ThreadMessage.mk

/-- The messages of a thread under their only member. -/
def listShape : Shape (Option (List ThreadMessage)) (List ThreadMessage) where
  name := "ThreadMessagesResponse"
  fields := [.of "messages" (fun d => d) (fun _ x => some x) (readList shape.reader)]
  empty := none
  finish := required "messages"

/-- The messages that an answer of the gateway lists. -/
def listOfText (s : String) : Except Refusal (List ThreadMessage) :=
  (readWhole listShape.reader s.toList).mapError (Fault.inText s.toList)

/-- The message as the gateway writes it. -/
def toJson (m : ThreadMessage) : Json :=
  .obj [("id", .str m.id), ("role", .str m.role), ("content", .str m.content)]

/-- The message of a chat that a stored message becomes, if it has one of the three
roles. -/
def toMessage? (m : ThreadMessage) : Option Message :=
  (Role.ofName? m.role).map fun role => ⟨m.id, role, m.content⟩

end ThreadMessage

/-- The request as it is sent. -/
def ChatRequest.toJson (r : ChatRequest) : Json :=
  .obj ([("model", .str r.model),
    ("messages", .arr (r.messages.map fun m =>
      .obj [("role", .str m.role), ("content", .str m.content)]))] ++
    (match r.thread with | none => [] | some t => [("thread_id", .str t)]) ++
    [("stream", .bool true)])

end ChatGateway
