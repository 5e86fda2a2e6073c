import ChatGateway.Chat.Transcript
import ChatGateway.Failure

/-!
# One conversation

A conversation is changed by actions only: of the user, of a reply that is being
received, and of a thread that is being loaded.  At most one reply and one load are
current.  A newer one takes the place of an older one, which is cancelled; whatever an
operation delivers after that is dropped, because its number is no longer current.

An action answers with the conversation after it, with a command to be carried out, and
with the operations that it cancelled.
-/

set_option autoImplicit false

namespace ChatGateway

/-- An operation that can be cancelled, by its number. -/
inductive Operation
  | stream (id : Nat)
  | load (request : Nat)
deriving DecidableEq, Repr

/-- What happens to a conversation. -/
inductive Action
  /-- The user sends a message. -/
  | submit (content : String)
  /-- A reply delivers a chunk. -/
  | chunk (stream : Nat) (c : Chunk)
  /-- The user stops the reply. -/
  | cancel
  /-- The user opens a stored thread. -/
  | selectThread (thread : String)
  /-- The messages of a thread have come. -/
  | threadLoaded (request : Nat) (thread : String) (messages : List ThreadMessage)
  /-- The messages of a thread could not be had. -/
  | threadFailed (request : Nat) (thread : String) (failure : Failure)
  /-- The user starts afresh. -/
  | newThread
deriving DecidableEq, Repr

/-- What a conversation asks for. -/
inductive Command
  /-- A reply to a request. -/
  | openStream (stream : Nat) (request : ChatRequest)
  /-- The messages of a thread. -/
  | loadThread (request : Nat) (thread : String)
  /-- The thread, or none, to be remembered between runs. -/
  | remember (thread : Option String)
deriving DecidableEq, Repr

/-- A conversation. -/
structure Conversation where
  transcript : Transcript
  thread : Option String
  model : String
  /-- The reply that is being received. -/
  stream : Option Nat
  /-- The load that is under way. -/
  load : Option Nat
  /-- The number of the latest reply. -/
  lastStream : Nat
  /-- The number of the latest load. -/
  lastLoad : Nat
  /-- The number of the latest message that got its name here. -/
  lastLocal : Nat
  /-- What the user has not been told yet. -/
  notices : List String
deriving DecidableEq, Repr

namespace Conversation

/-- What an action leads to. -/
structure Outcome where
  conversation : Conversation
  command : Option Command := none
  /-- The operations that were cancelled. -/
  cancelled : List Operation := []
deriving DecidableEq, Repr

/-- An empty conversation. -/
def start (model : String) (thread : Option String) : Conversation where
  transcript := {}
  thread := thread
  model := model
  stream := none
  load := none
  lastStream := 0
  lastLoad := 0
  lastLocal := 0
  notices := []

/-- Whether a thread is being loaded. -/
def isLoading (s : Conversation) : Bool :=
  s.load.isSome

/-- Whether a reply or a load is under way. -/
def isBusy (s : Conversation) : Bool :=
  s.transcript.isStreaming || s.isLoading

/-- What the user has not been told yet, and the conversation after telling. -/
def takeNotices (s : Conversation) : List String × Conversation :=
  (s.notices, { s with notices := [] })

/-- The name of the `n`-th message that gets its name here. -/
def localId (n : Nat) : String :=
  "local-" ++ toString n

/-- The messages with content, as a request carries them. -/
def requestMessages (ms : List Message) : List RequestMessage :=
  (ms.filter fun m => m.content ≠ "").map fun m => ⟨m.role.name, m.content⟩

/-- The operations that are current. -/
def current (s : Conversation) : List Operation :=
  (s.stream.map Operation.stream).toList ++ (s.load.map Operation.load).toList

/-- Stops the current reply. -/
def cancelStream (s : Conversation) : Outcome where
  conversation := { s with stream := none, transcript := s.transcript.idle }
  cancelled := (s.stream.map Operation.stream).toList

/-- Stops the current reply and the current load. -/
def cancelAll (s : Conversation) : Outcome where
  conversation := { s with stream := none, load := none, transcript := s.transcript.idle }
  cancelled := s.current

/-- The user sends `content`, which is not blank and has no blanks around it. -/
def send (s : Conversation) (content : String) : Outcome :=
  let history := s.transcript.dropPlaceholders.messages
  let question : Message := ⟨localId (s.lastLocal + 1), .user, content⟩
  let answer : Message := ⟨localId (s.lastLocal + 2), .assistant, ""⟩
  let stream := s.lastStream + 1
  { conversation :=
      { s with
        transcript := ⟨history ++ [question, answer], some answer.id, none⟩
        stream := some stream
        load := none
        lastStream := stream
        lastLocal := s.lastLocal + 2 }
    command := some (.openStream stream
      ⟨s.model, requestMessages (history ++ [question]), s.thread⟩)
    cancelled := s.current }

/-- A reply that is current delivers a chunk for the message `id`. -/
def receive (s : Conversation) (id : String) (c : Chunk) : Outcome :=
  let r := s.transcript.reduce id c
  let s' : Conversation :=
    { s with
      transcript := r.transcript
      stream := if c.isTerminal then none else s.stream
      notices := s.notices ++ r.notice.toList }
  match r.thread with
  | none => { conversation := s' }
  | some thread =>
    if s.thread = some thread then { conversation := s' }
    else
      { conversation := { s' with thread := some thread }
        command := some (.remember (some thread)) }

/-- What an action leads to. -/
def apply (s : Conversation) : Action → Outcome
  | .submit content =>
    let content := Text.trim content
    if content = "" then { conversation := s } else s.send content
  | .chunk stream c =>
    match s.transcript.streaming with
    | none => { conversation := s }
    | some id =>
      if s.stream = some stream then s.receive id c else { conversation := s }
  | .cancel => s.cancelStream
  | .selectThread thread =>
    let request := s.lastLoad + 1
    let o := s.cancelAll
    { conversation := { o.conversation with load := some request, lastLoad := request }
      command := some (.loadThread request thread)
      cancelled := o.cancelled }
  | .threadLoaded request thread messages =>
    if s.load = some request then
      { conversation :=
          { s with
            transcript := { messages := messages.filterMap ThreadMessage.toMessage? }
            thread := some thread
            load := none }
        command := some (.remember (some thread)) }
    else { conversation := s }
  | .threadFailed request thread failure =>
    if s.load = some request then
      { conversation :=
          { s with
            load := none
            notices :=
              if failure.isCancelled then s.notices
              else s.notices ++
                ["Failed to load thread " ++ thread ++ ": " ++ failure.describe] } }
    else { conversation := s }
  | .newThread =>
    let o := s.cancelAll
    { conversation := { o.conversation with transcript := {}, thread := none }
      command := some (.remember none)
      cancelled := o.cancelled }

end Conversation

end ChatGateway
