import ChatGateway.Json.Decode
import ChatGateway.Json.Record
import ChatGateway.Wire.Chunk

/-!
# Reading chunks

The member `type` may stand anywhere among the others.  All other members are read as
values first; once the kind is known, those that belong to it are decoded and the rest
are ignored.  A chunk may also be a list, of which the first item is the kind and the
others are the members of that kind by position.
-/

set_option autoImplicit false

namespace ChatGateway

namespace Chunk

open ChatGateway.Json

/-- The kinds of chunks. -/
inductive Kind
  | delta
  | toolCall
  | toolResult
  | done
  | error
deriving DecidableEq, Repr

/-- The names of the kinds. -/
def Kind.names : List String :=
  ["delta", "tool_call", "tool_result", "done", "error"]

/-- The kind called `name`. -/
def Kind.ofName (name : String) : Except Cause Kind :=
  if name = "delta" then .ok .delta
  else if name = "tool_call" then .ok .toolCall
  else if name = "tool_result" then .ok .toolResult
  else if name = "done" then .ok .done
  else if name = "error" then .ok .error
  else .error (.unknownVariant name Kind.names)

/-- What has been decoded of the members of a chunk or of one of its parts.  The outer
option says whether the member was there, the inner one whether it had a value. -/
structure Draft where
  text : Option String := none
  calls : Option (Option (List ToolCall)) := none
  name : Option (Option String) := none
  result : Option (Option Json) := none
  reason : Option (Option String) := none
  usage : Option (Option Usage) := none
  thread : Option (Option String) := none
  message : Option (Option String) := none

/-- What has been decoded of a tool call. -/
structure CallDraft where
  id : Option (Option String) := none
  name : Option (Option String) := none
  arguments : Option (Option Json) := none

/-- What has been decoded of the token counts. -/
structure UsageDraft where
  prompt : Option (Option Nat) := none
  completion : Option (Option Nat) := none
  total : Option (Option Nat) := none

/-- The members of a tool call. -/
def callParts : List (BodyPart CallDraft) :=
  [.of "id" (·.id) (fun d x => { d with id := some x }) (decodeOptional decodeText),
   .of "name" (·.name) (fun d x => { d with name := some x }) (decodeOptional decodeText),
   .of "arguments" (·.arguments) (fun d x => { d with arguments := some x })
     (decodeOptional decodeAny)]

/-- A tool call. -/
def decodeCall (v : Json) : Except Cause ToolCall :=
  (decodeRecord "struct ToolCallInfo" none callParts {} v).map fun d =>
    ⟨d.id.join, d.name.join, d.arguments.join⟩

/-- The members of the token counts. -/
def usageParts : List (BodyPart UsageDraft) :=
  [.of "prompt_tokens" (·.prompt) (fun d x => { d with prompt := some x })
     (decodeOptional decodeWord),
   .of "completion_tokens" (·.completion) (fun d x => { d with completion := some x })
     (decodeOptional decodeWord),
   .of "total_tokens" (·.total) (fun d x => { d with total := some x })
     (decodeOptional decodeWord)]

/-- Token counts; in the list form all three are needed. -/
def decodeUsage (v : Json) : Except Cause Usage :=
  (decodeRecord "struct Usage" (some "struct Usage with 3 elements") usageParts {} v).map
    fun d => ⟨d.prompt.join, d.completion.join, d.total.join⟩

/-- The members that belong to a kind. -/
def Kind.parts : Kind → List (BodyPart Draft)
  | .delta => [.of "delta" (·.text) (fun d x => { d with text := some x }) decodeText]
  | .toolCall =>
    [.of "tool_calls" (·.calls) (fun d x => { d with calls := some x })
       (decodeOptional (decodeList decodeCall)),
     .of "tool_name" (·.name) (fun d x => { d with name := some x })
       (decodeOptional decodeText)]
  | .toolResult =>
    [.of "tool_result" (·.result) (fun d x => { d with result := some x })
       (decodeOptional decodeAny)]
  | .done =>
    [.of "finish_reason" (·.reason) (fun d x => { d with reason := some x })
       (decodeOptional decodeText),
     .of "usage" (·.usage) (fun d x => { d with usage := some x })
       (decodeOptional decodeUsage),
     .of "thread_id" (·.thread) (fun d x => { d with thread := some x })
       (decodeOptional decodeText)]
  | .error =>
    [.of "error" (·.message) (fun d x => { d with message := some x })
       (decodeOptional decodeText)]

/-- The chunk of a kind with the members decoded so far. -/
def Kind.build (kind : Kind) (d : Draft) : Chunk :=
  match kind with
  | .delta => .delta (d.text.getD "")
  | .toolCall => .toolCall d.calls.join d.name.join
  | .toolResult => .toolResult d.result.join
  | .done => .done d.reason.join d.usage.join d.thread.join
  | .error => .error d.message.join

/-- The chunk of a kind with this content. -/
def ofBody (kind : Kind) (body : Body) : Except Cause Chunk :=
  (body.take none kind.parts {}).map kind.build

/-- The chunk that the members of an object denote. -/
def ofMembers (members : List (String × Json)) : Except Cause Chunk :=
  match members.filter fun m => m.1 = "type" with
  | [] => .error (.missingField "type")
  | [(_, .str name)] =>
    (Kind.ofName name).bind fun kind =>
      ofBody kind (.members (members.filter fun m => m.1 ≠ "type"))
  | [(_, v)] => .error (.wrongType (.ofJson v) "variant identifier")
  | _ => .error (.duplicateField "type")

/-- The kind of a chunk, read from its name. -/
def readKind : Reader Kind :=
  readStringAs "variant identifier" Kind.ofName

/-- The members of a chunk up to the end of its object: the kind, once it has been met,
and the other members, last first.  The first argument bounds their number. -/
def readTagged : Nat → Bool → Option Kind → List (String × Json) → Reader (Kind × Body)
  | 0, _, _, _, cs => .error (.past .endInObject cs)
  | fuel + 1, first, kind, others, cs =>
    match nextMember first cs with
    | .error f => .error f
    | .ok (.close rest) =>
      match kind with
      | none => .error (.here (.missingField "type") rest)
      | some kind => .ok ((kind, .members others.reverse), rest)
    | .ok (.more rest) =>
      match readText rest with
      | .error f => .error f
      | .ok (name, rest) =>
        if name = "type" then
          if kind.isSome then .error (.pending (.duplicateField "type") rest)
          else
            match (readColon rest).bind readKind with
            | .error f => .error f
            | .ok (k, rest) => readTagged fuel false (some k) others rest
        else
          match (readColon rest).bind (readValue (maxDepth - 1)) with
          | .error f => .error f
          | .ok (v, rest) => readTagged fuel false kind ((name, v) :: others) rest

/-- The items of a chunk in the list form. -/
def readTaggedList : Reader (Kind × Body) := fun cs =>
  match nextItem true cs with
  | .error f => .error f
  | .ok (.close rest) => .error (.here (.missingField "type") rest)
  | .ok (.more rest) =>
    match readKind rest with
    | .error f => .error f
    | .ok (kind, rest) =>
      (readItems (readValue (maxDepth - 1)) (rest.length + 1) false [] rest).map
        fun (items, rest) => ((kind, .items items), rest)

/-- The kind of a chunk with its content. -/
def readContent : Reader (Kind × Body) := fun cs =>
  match skipBlank cs with
  | '[' :: rest => (readTaggedList rest).mapError (Fault.settle leaveList)
  | '\x7b' :: rest =>
    (readTagged (rest.length + 1) true none [] rest).mapError (Fault.settle leaveObject)
  | cs =>
    match readValue maxDepth cs with
    | .error f => .error f
    | .ok (v, rest) =>
      .error (.here (.wrongType (.ofJson v) "internally tagged enum StreamChunk") rest)

/-- The chunk that a text denotes.  A fault in the content of a chunk has no place. -/
def ofChars (cs : List Char) : Except Refusal Chunk :=
  match readContent cs with
  | .error f => .error (f.inText cs)
  | .ok ((kind, body), rest) =>
    match ofBody kind body with
    | .error cause => .error ⟨cause, none⟩
    | .ok chunk =>
      match skipBlank rest with
      | [] => .ok chunk
      | rest => .error ((Fault.past .trailingCharacters rest).inText cs)

/-- The chunk that a text denotes. -/
def ofText (s : String) : Except Refusal Chunk :=
  ofChars s.toList

end Chunk

end ChatGateway
