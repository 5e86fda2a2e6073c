import ChatGateway.Json.Reader
import ChatGateway.Json.Skip

/-!
# Reading typed values

A typed value is read without building the JSON value first, so that a fault in it is
found at the earliest place.  A record may be written as an object, whose unknown
members are passed over and whose known members may not repeat, or as a list that
gives the members by position.
-/

set_option autoImplicit false

namespace ChatGateway

namespace Json

/-- The fault of a value of another type than `expected`, where `rest` is left after as
much of the value as had to be read. -/
def wrongType (expected : String) (cs : List Char) : Fault :=
  let found (r : Except Fault (Found × List Char)) : Fault :=
    match r with
    | .error f => f
    | .ok (found, rest) => .here (.wrongType found expected) rest
  match cs with
  | [] => .past .expectedValue []
  | 'n' :: rest => found ((readWord ['u', 'l', 'l'] rest).map fun r => (.null, r))
  | 't' :: rest => found ((readWord ['r', 'u', 'e'] rest).map fun r => (.boolean true, r))
  | 'f' :: rest =>
    found ((readWord ['a', 'l', 's', 'e'] rest).map fun r => (.boolean false, r))
  | '"' :: rest => found ((readText rest).map fun (s, r) => (.text s, r))
  | '-' :: rest => found ((readNumber false rest).map fun (n, r) => (.number n, r))
  | '[' :: rest => .here (.wrongType .list expected) ('[' :: rest)
  | '\x7b' :: rest => .here (.wrongType .object expected) ('\x7b' :: rest)
  | c :: rest =>
    if isDigit c then found ((readNumber true (c :: rest)).map fun (n, r) => (.number n, r))
    else .past .expectedValue (c :: rest)

/-- A text, called `expected` when something else is found. -/
def readString (expected : String) : Reader String := fun cs =>
  match skipBlank cs with
  | [] => .error (.past .endInValue [])
  | '"' :: rest => readText rest
  | rest => .error (wrongType expected rest)

/-- A text made into a value by `make`; a refusal stands right after the text. -/
def readStringAs {α : Type} (expected : String) (make : String → Except Cause α) :
    Reader α := fun cs =>
  match readString expected cs with
  | .error f => .error f
  | .ok (s, rest) =>
    match make s with
    | .error cause => .error (.here cause rest)
    | .ok x => .ok (x, rest)

/-- A list of values. -/
def readList {α : Type} (item : Reader α) : Reader (List α) := fun cs =>
  match skipBlank cs with
  | [] => .error (.past .endInValue [])
  | '[' :: rest => readItems item (rest.length + 1) true [] rest
  | rest => .error (wrongType "a sequence" rest)

/-- Null. -/
def readNull : Reader Unit := fun cs =>
  match skipBlank cs with
  | [] => .error (.past .endInValue [])
  | 'n' :: rest => (readWord ['u', 'l', 'l'] rest).map fun rest => ((), rest)
  | rest => .error (wrongType "unit" rest)

/-- One of the names of a choice without content, given as a text or as the only name of
an object with the value null. -/
def readChoice {α : Type} (name : String → Except Cause α) : Reader α := fun cs =>
  match skipBlank cs with
  | [] => .error (.past .endInValue [])
  | '"' :: rest => readStringAs "variant identifier" name ('"' :: rest)
  | '\x7b' :: rest =>
    match readStringAs "variant identifier" name rest with
    | .error f => .error f
    | .ok (x, rest) =>
      match readColon rest with
      | .error f => .error f
      | .ok rest =>
        match readNull rest with
        | .error f => .error f
        | .ok ((), rest) =>
          match skipBlank rest with
          | [] => .error (.here .endInObject [])
          | '\x7d' :: rest => .ok (x, rest)
          | rest => .error (.here .expectedValue rest)
  | rest => .error (.past .expectedValue rest)

/-- One member of a record, for a record of which `σ` holds what has been read. -/
structure RecordField (σ : Type) where
  name : String
  /-- Whether the member has been read. -/
  isRead : σ → Bool
  /-- Reads the member's value. -/
  read : σ → Reader σ

/-- The field `name` with values read by `value`. -/
def RecordField.of {σ α : Type} (name : String) (get : σ → Option α) (set : σ → α → σ)
    (value : Reader α) : RecordField σ where
  name := name
  isRead := fun draft => (get draft).isSome
  read := fun draft cs => (value cs).map fun (x, rest) => (set draft x, rest)

/-- The value of a member, or the fault that it is missing. -/
def required {α : Type} (name : String) : Option α → Except Cause α
  | some x => .ok x
  | none => .error (.missingField name)

/-- A record type as a reader sees it: what has been read so far is a `σ`, and the
finished record an `α`. -/
structure Shape (σ α : Type) where
  /-- The name that appears when something else is found. -/
  name : String
  /-- The members in the order of the list form. -/
  fields : List (RecordField σ)
  /-- Nothing read yet. -/
  empty : σ
  /-- The finished record, or the member that is missing. -/
  finish : σ → Except Cause α

/-- A number of elements in words. -/
def elements (n : Nat) : String :=
  if n = 1 then "1 element" else toString n ++ " elements"

namespace Shape

variable {σ α : Type}

/-- The members of an object up to its end; the first argument bounds their number. -/
def readObject (shape : Shape σ α) : Nat → Bool → σ → Reader α
  | 0, _, _, cs => .error (.past .endInObject cs)
  | fuel + 1, first, draft, cs =>
    match nextMember first cs with
    | .error f => .error f
    | .ok (.close rest) =>
      match shape.finish draft with
      | .error cause => .error (.here cause rest)
      | .ok x => .ok (x, rest)
    | .ok (.more rest) =>
      match readText rest with
      | .error f => .error f
      | .ok (name, rest) =>
        match shape.fields.find? fun field => field.name = name with
        | none =>
          match (readColon rest).bind skipValue with
          | .error f => .error f
          | .ok rest => readObject shape fuel false draft rest
        | some field =>
          if field.isRead draft then .error (.pending (.duplicateField name) rest)
          else
            match (readColon rest).bind (field.read draft) with
            | .error f => .error f
            | .ok (draft, rest) => readObject shape fuel false draft rest

/-- The members by position, from the `index`-th on, and the end of the list. -/
def readPositions (shape : Shape σ α) (index : Nat) (draft : σ) :
    List (RecordField σ) → Reader α
  | [], cs =>
    match endList cs with
    | .error f => .error f
    | .ok rest =>
      match shape.finish draft with
      | .error cause => .error (.here cause rest)
      | .ok x => .ok (x, rest)
  | field :: fields, cs =>
    match nextItem (index = 0) cs with
    | .error f => .error f
    | .ok (.close rest) =>
      .error (.here (.wrongLength index
        ("struct " ++ shape.name ++ " with " ++ elements shape.fields.length)) rest)
    | .ok (.more rest) =>
      match field.read draft rest with
      | .error f => .error f
      | .ok (draft, rest) => readPositions shape (index + 1) draft fields rest

/-- A record. -/
def reader (shape : Shape σ α) : Reader α := fun cs =>
  match skipBlank cs with
  | [] => .error (.past .endInValue [])
  | '[' :: rest =>
    (shape.readPositions 0 shape.empty shape.fields rest).mapError (Fault.settle leaveList)
  | '\x7b' :: rest =>
    (shape.readObject (rest.length + 1) true shape.empty rest).mapError
      (Fault.settle leaveObject)
  | rest => .error (wrongType ("struct " ++ shape.name) rest)

end Shape

end Json

end ChatGateway
