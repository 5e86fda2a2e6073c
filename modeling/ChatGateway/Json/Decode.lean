import ChatGateway.Json.Fault

/-!
# Decoding values into records

The content of a tagged value is decoded from the value that was read, so that its
faults have a cause but no place.  A record is an object, whose unknown members are
ignored and whose known members may not repeat, or a list that gives the members by
position.  A list may be shorter than the record only when every member has a default.
-/

set_option autoImplicit false

namespace ChatGateway

namespace Json

/-- A text. -/
def decodeText : Json → Except Cause String
  | .str s => .ok s
  | v => .error (.wrongType (.ofJson v) "a string")

/-- A number of 64 bits. -/
def decodeWord : Json → Except Cause Nat
  | .number (.int n) =>
    match n with
    | .ofNat k => .ok k
    | n => .error (.wrongValue (.number (.int n)) "u64")
  | v => .error (.wrongType (.ofJson v) "u64")

/-- Any value, of whose repeated members the last one counts. -/
def decodeAny (v : Json) : Except Cause Json :=
  .ok (distinct v)

/-- A value, or null for none. -/
def decodeOptional {α : Type} (value : Json → Except Cause α) : Json → Except Cause (Option α)
  | .null => .ok none
  | v => (value v).map some

/-- A list of values. -/
def decodeList {α : Type} (value : Json → Except Cause α) : Json → Except Cause (List α)
  | .arr items => items.mapM value
  | v => .error (.wrongType (.ofJson v) "a sequence")

/-- One member of a record, for a record of which `σ` holds what has been decoded. -/
structure BodyPart (σ : Type) where
  name : String
  /-- Whether the member has been decoded. -/
  isRead : σ → Bool
  /-- Decodes the member's value. -/
  take : σ → Json → Except Cause σ

/-- The part `name` with values decoded by `value`. -/
def BodyPart.of {σ α : Type} (name : String) (get : σ → Option α) (set : σ → α → σ)
    (value : Json → Except Cause α) : BodyPart σ where
  name := name
  isRead := fun draft => (get draft).isSome
  take := fun draft v => (value v).map (set draft)

/-- The content of a record: its members by name, or by position. -/
inductive Body
  | members (ms : List (String × Json))
  | items (vs : List Json)
deriving DecidableEq, Repr

/-- The members of an object into the parts they belong to. -/
def takeMembers {σ : Type} (parts : List (BodyPart σ)) :
    σ → List (String × Json) → Except Cause σ
  | draft, [] => .ok draft
  | draft, (name, v) :: rest =>
    match parts.find? fun part => part.name = name with
    | none => takeMembers parts draft rest
    | some part =>
      if part.isRead draft then .error (.duplicateField name)
      else
        match part.take draft v with
        | .error cause => .error cause
        | .ok draft => takeMembers parts draft rest

/-- The items of a list into the parts by position, the first of which is the
`index`-th.  `short` says what is wrong with a list that ends early, if anything. -/
def takeItems {σ : Type} (short : Option String) (index : Nat) :
    σ → List (BodyPart σ) → List Json → Except Cause σ
  | draft, [], [] => .ok draft
  | _, [], items =>
    .error (.wrongLength (index + items.length)
      ((if index = 1 then "1 element" else toString index ++ " elements") ++ " in sequence"))
  | draft, _ :: _, [] =>
    match short with
    | none => .ok draft
    | some expected => .error (.wrongLength index expected)
  | draft, part :: parts, v :: items =>
    match part.take draft v with
    | .error cause => .error cause
    | .ok draft => takeItems short (index + 1) draft parts items

/-- The content of a record into its parts. -/
def Body.take {σ : Type} (short : Option String) (parts : List (BodyPart σ)) (draft : σ) :
    Body → Except Cause σ
  | .members ms => takeMembers parts draft ms
  | .items vs => takeItems short 0 draft parts vs

/-- A record, called `expected` when something else is found. -/
def decodeRecord {σ : Type} (expected : String) (short : Option String)
    (parts : List (BodyPart σ)) (draft : σ) : Json → Except Cause σ
  | .obj ms => (Body.members ms).take short parts draft
  | .arr vs => (Body.items vs).take short parts draft
  | v => .error (.wrongType (.ofJson v) expected)

end Json

end ChatGateway
