import ChatGateway.LogFilter.Level
import ChatGateway.LogFilter.Value
import ChatGateway.Text.Alphanumeric
import ChatGateway.Text.Blank
import ChatGateway.Text.Utf8

/-!
# Log filters

A filter is a list of directives, separated by commas.  A directive names a target, a
span with a field, a level, or several of these.  The more specific a directive, the
earlier it stands in the filter; of two about the same thing the later one counts.  A
filter that cannot be understood as a whole is replaced by one that lets warnings pass.
-/

set_option autoImplicit false

namespace ChatGateway

/-- A field that a span has, with its value if that matters. -/
structure LogField where
  name : String
  value : Option LogValue
deriving DecidableEq, Repr

/-- A rule about the events that pass. -/
structure LogDirective where
  target : Option String
  span : Option String
  field : Option LogField
  level : LogLevel
deriving DecidableEq, Repr

namespace LogDirective

/-! ## Order -/

/-- Compares two directives without their levels; the more specific is the greater one. -/
def compareKeys (a b : LogDirective) : Ordering :=
  let size (d : LogDirective) : Option Nat := d.target.map String.utf8ByteSize
  let value (d : LogDirective) : Option LogValue := d.field.bind LogField.value
  (compare (size a) (size b)).then <|
  (compare a.span.isSome b.span.isSome).then <|
  (compare a.field.isSome b.field.isSome).then <|
  (compare a.target b.target).then <|
  (compare a.span b.span).then <|
  (compare (value a).isSome (value b).isSome).then <|
  (compare (a.field.map LogField.name) (b.field.map LogField.name)).then <|
  compare (value a) (value b)

/-- The directives with `d`, the most specific first.  It takes the place of one about
the same thing. -/
def insert (d : LogDirective) : List LogDirective → List LogDirective
  | [] => [d]
  | e :: es =>
    match d.compareKeys e with
    | .gt => d :: e :: es
    | .eq => d :: es
    | .lt => e :: insert d es

/-! ## Text -/

/-- A field with its value. -/
def fieldText (f : LogField) : String :=
  match f.value with
  | none => f.name
  | some v => f.name ++ "=" ++ v.toText

/-- A directive as it is written. -/
def toText (d : LogDirective) : String :=
  let subject :=
    d.target.getD "" ++
      if d.span.isSome ∨ d.field.isSome then
        "[" ++ d.span.getD "" ++
          (match d.field with
            | none => ""
            | some f => "\x7b" ++ fieldText f ++ "\x7d") ++ "]"
      else ""
  if d.target.isSome ∨ subject ≠ "" then subject ++ "=" ++ d.level.name else d.level.name

/-- A field in braces; what follows a second sign of equality does not matter. -/
def fieldOfText? (cs : List Char) : Option LogField :=
  let name := String.ofList (cs.takeWhile (· ≠ '='))
  match cs.dropWhile (· ≠ '=') with
  | [] => some ⟨name, none⟩
  | _ :: rest =>
    (LogValue.ofText? (String.ofList (rest.takeWhile (· ≠ '=')))).map fun v => ⟨name, some v⟩

/-- The level after the sign of equality; nothing stands for all events. -/
def levelOfText (cs : List Char) : Option LogLevel :=
  if cs.isEmpty then some .trace else LogLevel.ofText? (String.ofList cs)

/-- What of `whole` stands between two places, given as counts of bytes. -/
def between (whole : List Char) (start stop : Nat) : List Char :=
  (Text.Utf8.decode? (((Text.Utf8.encode whole).take stop).drop start)).getD []

/-- What of `whole` stands after a count of bytes. -/
def after (whole : List Char) (start : Nat) : List Char :=
  between whole start (Text.Utf8.byteLength whole)

/-- A directive about a target and a span of which everything but the level is known;
the rest of it starts at a count of bytes. -/
def ofSubject (whole : List Char) (target span : Option String) (field : Option LogField)
    (place : Nat) : List Char → Option LogDirective
  | [] => some ⟨target, span, field, .trace⟩
  | '=' :: _ => (levelOfText (after whole (place + 1))).map fun l => ⟨target, span, field, l⟩
  | _ => none

/-- A directive with a span, whose name starts at a count of bytes. -/
def ofSpan (whole : List Char) (target : Option String) (start : Nat) (cs : List Char) :
    Option LogDirective :=
  let name := cs.takeWhile fun c => c ≠ ']' ∧ c ≠ '\x7b'
  let stop := start + Text.Utf8.byteLength name
  let span := String.ofList (between whole start stop)
  match cs.dropWhile fun c => c ≠ ']' ∧ c ≠ '\x7b' with
  | ']' :: rest => ofSubject whole target (some span) none (stop + 1) rest
  | '\x7b' :: rest =>
    let field := rest.takeWhile (· ≠ '\x7d')
    let stop' := stop + 1 + Text.Utf8.byteLength field
    match rest.dropWhile (· ≠ '\x7d') with
    | '\x7d' :: ']' :: rest =>
      let field := between whole (stop + 1) stop'
      if field.isEmpty then none
      else
        (fieldOfText? field).bind fun f =>
          ofSubject whole target (if span = "" then none else some span) (some f) (stop' + 2)
            rest
    | _ => none
  | _ => none

/-- Whether `c` can start the name of a target or a level. -/
def isStart (c : Char) : Bool :=
  Text.isAlphanumeric c || c = '-' || c = ':' || c = '_'

/-- The directive that a text denotes.  Places are found in the text without the blanks
around it, but are places of the whole text. -/
def ofText? (whole : List Char) : Option LogDirective :=
  match Text.trimChars whole with
  | [] => none
  | '[' :: rest => ofSpan whole none 1 rest
  | c :: rest =>
    if !isStart c then none
    else
      let cs := c :: rest
      let name := cs.takeWhile fun c => c ≠ '=' ∧ c ≠ '['
      let stop := Text.Utf8.byteLength name
      let target := some (String.ofList (between whole 0 stop))
      match cs.dropWhile fun c => c ≠ '=' ∧ c ≠ '[' with
      | '[' :: rest => ofSpan whole target (stop + 1) rest
      | '=' :: rest => ofSubject whole target none none stop ('=' :: rest)
      | _ =>
        let s := String.ofList whole
        match LogLevel.ofText? s with
        | some l => some ⟨none, none, none, l⟩
        | none => some ⟨some s, none, none, .trace⟩

/-- Whether the directive holds for every span with the same target and field. -/
def isStatic (d : LogDirective) : Bool :=
  d.span.isNone && (d.field.bind LogField.value).isNone

/-- Whether the directive depends on the span. -/
def isDynamic (d : LogDirective) : Bool :=
  d.span.isSome || d.field.isSome

end LogDirective

/-- A filter: what can be decided without the span, and what cannot. -/
structure LogFilter where
  statics : List LogDirective
  dynamics : List LogDirective
deriving DecidableEq, Repr

namespace LogFilter

/-- The pieces of a text between commas. -/
def pieces (piece : List Char) : List Char → List (List Char)
  | [] => [piece.reverse]
  | c :: cs => if c = ',' then piece.reverse :: pieces [] cs else pieces (c :: piece) cs

/-- The filter of some directives; without any, errors pass. -/
def ofDirectives (ds : List LogDirective) : LogFilter :=
  let collect (ds : List LogDirective) : List LogDirective :=
    ds.foldl (fun es d => LogDirective.insert d es) []
  let dynamics := ds.filter LogDirective.isDynamic
  let statics := ds.filter fun d => !d.isDynamic
  if ds.isEmpty then ⟨[⟨none, none, none, .error⟩], []⟩
  else ⟨collect (statics ++ dynamics.filter LogDirective.isStatic), collect dynamics⟩

/-- The filter when none is given. -/
def standard : LogFilter :=
  ⟨[⟨none, none, none, .warn⟩], []⟩

/-- The filter that a text denotes, if every directive in it can be understood. -/
def ofText? (s : String) : Option LogFilter :=
  (((pieces [] s.toList).filter fun p => !p.isEmpty).mapM LogDirective.ofText?).map ofDirectives

/-- The filter for directives that may be missing. -/
def ofGiven (directives : Option String) : LogFilter :=
  match directives with
  | none => standard
  | some s => if Text.isBlankText s then standard else (ofText? s).getD standard

/-- A filter as it is written. -/
def toText (f : LogFilter) : String :=
  ",".intercalate ((f.statics ++ f.dynamics).map LogDirective.toText)

example : (ofGiven (some "error,chatline=trace")).toText = "chatline=trace,error" := by
  decide +kernel
example : (ofGiven (some "a[s\x7bx\x7d]=INFO,b=5")).toText = "b=trace,a[s\x7bx\x7d]=info" := by
  decide +kernel
example : (ofGiven (some "chatline=loud")).toText = "warn" := by decide +kernel

end LogFilter

end ChatGateway
