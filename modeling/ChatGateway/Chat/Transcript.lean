import ChatGateway.Text.Blank
import ChatGateway.Wire.Chunk
import ChatGateway.Wire.Message

/-!
# The transcript of a chat and how a reply is folded into it

A transcript is the list of messages of one chat with the message that a reply is
written into and the task the assistant is busy with.  Folding a chunk never fails: text
goes to the first message with the given name, if there is one.
-/

set_option autoImplicit false

namespace ChatGateway

/-- The messages of a chat. -/
structure Transcript where
  messages : List Message := []
  /-- The message that receives the reply, if one is being received. -/
  streaming : Option String := none
  /-- What the assistant is doing right now. -/
  task : Option String := none
deriving DecidableEq, Repr

/-- Shown when a reply fails without saying why. -/
def unknownReplyError : String :=
  "Something went wrong while generating a response."

/-- An assistant's message without content. -/
def Message.isPlaceholder (m : Message) : Bool :=
  m.role = .assistant && m.content = ""

namespace Transcript

/-- The first message called `id`. -/
def find? (t : Transcript) (id : String) : Option Message :=
  t.messages.find? fun m => m.id = id

/-- The transcript with one more message. -/
def push (t : Transcript) (m : Message) : Transcript :=
  { t with messages := t.messages ++ [m] }

/-- Whether a reply is being received. -/
def isStreaming (t : Transcript) : Bool :=
  t.streaming.isSome

/-- The messages without the placeholders at their end. -/
def withoutPlaceholders (ms : List Message) : List Message :=
  (ms.reverse.dropWhile Message.isPlaceholder).reverse

/-- The transcript without the placeholders at its end. -/
def dropPlaceholders (t : Transcript) : Transcript :=
  { t with messages := withoutPlaceholders t.messages }

/-- The transcript with no reply being received. -/
def idle (t : Transcript) : Transcript :=
  { t with streaming := none, task := none }

/-- The messages with `text` at the end of the first one called `id`. -/
def appendTo (id text : String) : List Message → List Message
  | [] => []
  | m :: ms =>
    if m.id = id then { m with content := m.content ++ text } :: ms
    else m :: appendTo id text ms

/-- The name of the tool that a call announces. -/
def taskOf (calls : Option (List ToolCall)) (name : Option String) : Option String :=
  name.or ((calls.bind List.head?).bind ToolCall.name)

/-- What folding a chunk gives besides the transcript. -/
structure Reduction where
  transcript : Transcript
  /-- A message for the user. -/
  notice : Option String := none
  /-- The thread that the gateway says the chat belongs to. -/
  thread : Option String := none
deriving DecidableEq, Repr

/-- What is told to the user about an error chunk. -/
def errorNotice (message : Option String) : String :=
  match message with
  | some text => if Text.isBlankText text then unknownReplyError else text
  | none => unknownReplyError

/-- Folds a chunk into the transcript; `id` names the message that receives text. -/
def reduce (t : Transcript) (id : String) : Chunk → Reduction
  | .delta text => ⟨{ t with messages := appendTo id text t.messages }, none, none⟩
  | .toolCall calls name => ⟨{ t with task := (taskOf calls name).or t.task }, none, none⟩
  | .toolResult _ => ⟨{ t with task := none }, none, none⟩
  | .done _ _ thread => ⟨t.idle, none, thread⟩
  | .error message => ⟨t.idle, some (errorNotice message), none⟩

/-- Appending changes neither the number nor the order nor the names of messages. -/
theorem appendTo_ids (id text : String) (ms : List Message) :
    (appendTo id text ms).map (fun m => (m.id, m.role)) = ms.map fun m => (m.id, m.role) := by
  induction ms with
  | nil => rfl
  | cons m ms ih =>
    by_cases h : m.id = id
    · simp [appendTo, h]
    · simp [appendTo, h, ih]

/-- Appending nothing changes nothing. -/
theorem appendTo_empty (id : String) (ms : List Message) : appendTo id "" ms = ms := by
  induction ms with
  | nil => rfl
  | cons m ms ih =>
    by_cases h : m.id = id
    · subst h
      simp [appendTo]
    · simp [appendTo, h, ih]

end Transcript

end ChatGateway
