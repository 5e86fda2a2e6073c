import ChatGateway.Failure
import ChatGateway.Wire.ChunkReader

/-!
# Events of a reply

A line of an event stream that starts with `data:` carries a payload.  The payload is a
chunk, the mark that ends the reply, an error object that some gateways send in place of
a chunk, or nothing that can be understood.  All other lines mean nothing.
-/

set_option autoImplicit false

namespace ChatGateway.Sse

/-- What a line of an event stream means. -/
inductive Event
  | chunk (c : Chunk)
  /-- The mark that ends a reply. -/
  | finish
  /-- A payload that is neither a chunk nor an error object. -/
  | malformed (text : String)
deriving DecidableEq, Repr

/-- What the payload of a line means. -/
def Event.ofPayload (payload : String) : Event :=
  if payload = "[DONE]" then .finish
  else
    match Chunk.ofText payload with
    | .ok c => .chunk c
    | .error refusal =>
      let isErrorObject :=
        match Json.ofText payload with
        | .ok v => (v.member? "error").isSome
        | .error _ => false
      if isErrorObject then .chunk (.failed (summarize payload))
      else .malformed (refusal.message ++ ": " ++ payload)

/-- What a line means, if it carries anything. -/
def Event.ofLine (line : String) : Option Event :=
  match Text.dropPrefix? "data:".toList line.toList with
  | none => none
  | some rest =>
    let payload := Text.trimStartChars rest
    if payload.isEmpty then none else some (.ofPayload (String.ofList payload))

end ChatGateway.Sse
