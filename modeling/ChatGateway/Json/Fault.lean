import ChatGateway.Decimal.Shortest
import ChatGateway.Json.Value
import ChatGateway.Text.Quoted
import ChatGateway.Text.Utf8

/-!
# Why and where a JSON text is refused

A refusal has a cause and, unless it arose after the text had been read, a place: a
line and a column, both counted in bytes from the start of the text.

While a text is being read a place is what is left of the text.  Some faults are known
before their place is: a member that repeats, a member that is missing, a text value
that its owner rejects.  Such a fault stays open until the value that encloses it has
been left, and then takes the place where reading stands.
-/

set_option autoImplicit false

namespace ChatGateway

/-- What was found where something else was expected. -/
inductive Found
  | null
  | boolean (b : Bool)
  | number (n : Number)
  | text (s : String)
  | list
  | object
deriving DecidableEq, Repr

/-- The words for what was found. -/
def Found.describe : Found → String
  | .null => "null"
  | .boolean b => "boolean `" ++ (if b then "true" else "false") ++ "`"
  | .number (.int n) => "integer `" ++ toString n ++ "`"
  | .number (.float bits) => "floating point `" ++ Decimal.inMessages.render bits ++ "`"
  | .text s => "string " ++ Text.quoted s
  | .list => "sequence"
  | .object => "map"

/-- What a value is found to be. -/
def Found.ofJson : Json → Found
  | .null => .null
  | .bool b => .boolean b
  | .number n => .number n
  | .str s => .text s
  | .arr _ => .list
  | .obj _ => .object

/-- The reasons for which a JSON text is refused. -/
inductive Cause
  | endInValue
  | endInList
  | endInObject
  | endInText
  | expectedColon
  | expectedListComma
  | expectedObjectComma
  | expectedWord
  | expectedValue
  | invalidEscape
  | invalidNumber
  | numberOutOfRange
  | controlCharacter
  | keyNotText
  | loneSurrogate
  | brokenEscape
  | trailingComma
  | trailingCharacters
  | tooDeep
  | wrongType (found : Found) (expected : String)
  | wrongValue (found : Found) (expected : String)
  | wrongLength (length : Nat) (expected : String)
  | unknownVariant (name : String) (known : List String)
  | duplicateField (name : String)
  | missingField (name : String)
  | rejected (reason : String)
deriving DecidableEq, Repr

/-- The words for a cause. -/
def Cause.message : Cause → String
  | .endInValue => "EOF while parsing a value"
  | .endInList => "EOF while parsing a list"
  | .endInObject => "EOF while parsing an object"
  | .endInText => "EOF while parsing a string"
  | .expectedColon => "expected `:`"
  | .expectedListComma => "expected `,` or `]`"
  | .expectedObjectComma => "expected `,` or `\x7d`"
  | .expectedWord => "expected ident"
  | .expectedValue => "expected value"
  | .invalidEscape => "invalid escape"
  | .invalidNumber => "invalid number"
  | .numberOutOfRange => "number out of range"
  | .controlCharacter =>
    "control character (\\u0000-\\u001F) found while parsing a string"
  | .keyNotText => "key must be a string"
  | .loneSurrogate => "lone leading surrogate in hex escape"
  | .brokenEscape => "unexpected end of hex escape"
  | .trailingComma => "trailing comma"
  | .trailingCharacters => "trailing characters"
  | .tooDeep => "recursion limit exceeded"
  | .wrongType found expected =>
    "invalid type: " ++ found.describe ++ ", expected " ++ expected
  | .wrongValue found expected =>
    "invalid value: " ++ found.describe ++ ", expected " ++ expected
  | .wrongLength length expected =>
    "invalid length " ++ toString length ++ ", expected " ++ expected
  | .unknownVariant name known =>
    "unknown variant `" ++ name ++ "`, expected one of " ++
      String.intercalate ", " (known.map fun k => "`" ++ k ++ "`")
  | .duplicateField name => "duplicate field `" ++ name ++ "`"
  | .missingField name => "missing field `" ++ name ++ "`"
  | .rejected reason => reason

/-- A place in a text: a line, counted from one, and a number of bytes of that line. -/
structure Position where
  line : Nat
  column : Nat
deriving DecidableEq, Repr

/-- The place that `n` bytes lead to, from the place `p` at the start of `text`. -/
def Position.advance (p : Position) : Nat → List Char → Position
  | _, [] => p
  | n, c :: cs =>
    if n = 0 then p
    else if c = '\n' then Position.advance ⟨p.line + 1, 0⟩ (n - 1) cs
    else if c.utf8Size ≤ n then
      Position.advance ⟨p.line, p.column + c.utf8Size⟩ (n - c.utf8Size) cs
    else ⟨p.line, p.column + n⟩

/-- The place of a fault while reading goes on. -/
inductive Place
  /-- Not settled yet; this much of the text was left when the fault was found. -/
  | pending (rest : List Char)
  /-- Where this many bytes of the text are left. -/
  | left (bytes : Nat)
  /-- The place that the cause itself named. -/
  | stated (position : Position)
deriving DecidableEq, Repr

/-- A fault found while a text is being read. -/
structure Fault where
  cause : Cause
  place : Place
deriving DecidableEq, Repr

namespace Fault

/-- The fault `cause` where `rest` is left. -/
def here (cause : Cause) (rest : List Char) : Fault :=
  ⟨cause, .left (Text.Utf8.byteLength rest)⟩

/-- The fault `cause` one byte further than where `rest` is left, at most at the end. -/
def past (cause : Cause) (rest : List Char) : Fault :=
  ⟨cause, .left (Text.Utf8.byteLength rest - 1)⟩

/-- A fault that the enclosing value settles; `rest` is left when it is found. -/
def pending (cause : Cause) (rest : List Char) : Fault :=
  ⟨cause, .pending rest⟩

/-- The fault with its place settled, after `leave` has moved out of the enclosing
value. -/
def settle (leave : List Char → List Char) (f : Fault) : Fault :=
  match f.place with
  | .pending rest => Fault.here f.cause (leave rest)
  | _ => f

end Fault

/-- A cause with its place in the whole text, if it has one. -/
structure Refusal where
  cause : Cause
  position : Option Position
deriving DecidableEq, Repr

/-- The whole text of a refusal. -/
def Refusal.message (r : Refusal) : String :=
  match r.position with
  | none => r.cause.message
  | some p =>
    r.cause.message ++ " at line " ++ toString p.line ++ " column " ++ toString p.column

/-- The place in `text` of a fault found while reading it. -/
def Fault.inText (text : List Char) (f : Fault) : Refusal :=
  match f.place with
  | .pending _ => ⟨f.cause, none⟩
  | .left bytes =>
    ⟨f.cause, some (Position.advance ⟨1, 0⟩ (Text.Utf8.byteLength text - bytes) text)⟩
  | .stated p => ⟨f.cause, some p⟩

example : Position.advance ⟨1, 0⟩ 4 ['a', '\n', 'é', 'b'] = ⟨2, 2⟩ := by decide
example : Cause.message (.wrongType (.number (.int (-3))) "a string") =
    "invalid type: integer `-3`, expected a string" := by decide +kernel

end ChatGateway
