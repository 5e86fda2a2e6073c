import ChatGateway.Json.Value

/-!
# Chunks of a reply

The gateway answers a chat request with a series of chunks.  A chunk is a flat object
whose member `type` selects the kind; the other members belong to one kind each.
-/

set_option autoImplicit false

namespace ChatGateway

/-- A call of a tool that the assistant announces. -/
structure ToolCall where
  id : Option String
  name : Option String
  arguments : Option Json
deriving DecidableEq, Repr

/-- How many tokens a reply took. -/
structure Usage where
  promptTokens : Option Nat
  completionTokens : Option Nat
  totalTokens : Option Nat
deriving DecidableEq, Repr

/-- One unit of a streamed reply. -/
inductive Chunk
  | delta (text : String)
  | toolCall (calls : Option (List ToolCall)) (name : Option String)
  | toolResult (result : Option Json)
  | done (reason : Option String) (usage : Option Usage) (thread : Option String)
  | error (message : Option String)
deriving DecidableEq, Repr

namespace Chunk

/-- The end of a reply that says nothing about it. -/
def finished : Chunk :=
  .done none none none

/-- A failure of a reply with its message. -/
def failed (message : String) : Chunk :=
  .error (some message)

/-- Whether a reply carries nothing after this chunk. -/
def isTerminal : Chunk → Bool
  | .done .. => true
  | .error _ => true
  | _ => false

end Chunk

/-- A member that is left out when it has no value. -/
def Json.given (name : String) : Option Json → List (String × Json)
  | none => []
  | some v => [(name, v)]

/-- The members of a tool call. -/
def ToolCall.toJson (call : ToolCall) : Json :=
  .obj (Json.given "id" (call.id.map .str) ++ Json.given "name" (call.name.map .str) ++
    Json.given "arguments" call.arguments)

/-- A count that may be missing. -/
def Usage.count : Option Nat → Json
  | none => .null
  | some n => .ofNat n

/-- The three counts; a missing one is null. -/
def Usage.toJson (u : Usage) : Json :=
  .obj [("prompt_tokens", count u.promptTokens),
    ("completion_tokens", count u.completionTokens), ("total_tokens", count u.totalTokens)]

namespace Chunk

/-- The chunk as the gateway writes it. -/
def toJson : Chunk → Json
  | .delta text => .obj [("type", .str "delta"), ("delta", .str text)]
  | .toolCall calls name =>
    .obj (("type", .str "tool_call") ::
      (Json.given "tool_calls" (calls.map fun cs => .arr (cs.map ToolCall.toJson)) ++
        Json.given "tool_name" (name.map .str)))
  | .toolResult result =>
    .obj (("type", .str "tool_result") :: Json.given "tool_result" result)
  | .done reason usage thread =>
    .obj (("type", .str "done") ::
      (Json.given "finish_reason" (reason.map .str) ++
        Json.given "usage" (usage.map Usage.toJson) ++
        Json.given "thread_id" (thread.map .str)))
  | .error message =>
    .obj (("type", .str "error") :: Json.given "error" (message.map .str))

end Chunk

end ChatGateway
