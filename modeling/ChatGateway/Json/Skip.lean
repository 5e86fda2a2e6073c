import ChatGateway.Json.Scan

/-!
# Passing over a value

A member that nobody asked for is passed over without being kept.  Passing over has no
limit on nesting and is less strict than reading: the names of escapes are checked but
not the numbers in them, and a comma is only noticed to be one too many when what
follows it is no value.

The open lists and objects are kept on a stack, innermost first.
-/

set_option autoImplicit false

namespace ChatGateway

namespace Json

/-- An open list or object. -/
inductive Frame
  | list
  | object
deriving DecidableEq, Repr

/-- What comes next while a value is passed over. -/
inductive SkipState
  /-- A value, inside these lists and objects. -/
  | value (frames : List Frame)
  /-- A comma, if one may come, or the closing bracket of the first of these. -/
  | next (comma : Bool) (frame : Frame) (frames : List Frame)
  /-- Nothing. -/
  | done

/-- Passes over a text after its opening quote; the first argument bounds its length. -/
def skipChars : Nat → List Char → Except Fault (List Char)
  | 0, cs => .error (.here .endInText cs)
  | _ + 1, [] => .error (.here .endInText [])
  | _ + 1, '"' :: rest => .ok rest
  | _ + 1, '\\' :: [] => .error (.here .endInText [])
  | fuel + 1, '\\' :: 'u' :: rest =>
    match readHex4 rest with
    | .error f => .error f
    | .ok (_, rest) => skipChars fuel rest
  | fuel + 1, '\\' :: e :: rest =>
    match escaped? e with
    | some _ => skipChars fuel rest
    | none => .error (.past .invalidEscape (e :: rest))
  | fuel + 1, c :: rest =>
    if c.toNat < 0x20 then .error (.here .controlCharacter (c :: rest))
    else skipChars fuel rest

/-- Passes over an exponent after its `e`. -/
def skipExponent (cs : List Char) : Except Fault (List Char) :=
  let cs := match cs with
    | '+' :: rest => rest
    | '-' :: rest => rest
    | rest => rest
  if startsWithDigit cs then .ok (cs.dropWhile isDigit)
  else .error (.past .invalidNumber cs)

/-- Passes over what may follow the integer digits of a number. -/
def skipAfterInteger : List Char → Except Fault (List Char)
  | '.' :: rest =>
    if startsWithDigit rest then
      match rest.dropWhile isDigit with
      | 'e' :: rest => skipExponent rest
      | 'E' :: rest => skipExponent rest
      | rest => .ok rest
    else .error (.past .invalidNumber rest)
  | 'e' :: rest => skipExponent rest
  | 'E' :: rest => skipExponent rest
  | rest => .ok rest

/-- Passes over a number after its sign. -/
def skipNumber : List Char → Except Fault (List Char)
  | [] => .error (.here .invalidNumber [])
  | c :: cs =>
    if c = '0' then
      if startsWithDigit cs then .error (.past .invalidNumber cs) else skipAfterInteger cs
    else if isDigit c then skipAfterInteger (cs.dropWhile isDigit)
    else .error (.past .invalidNumber (c :: cs))

/-- What comes next after a value inside `frames`. -/
def afterValue : List Frame → SkipState
  | [] => .done
  | frame :: frames => .next true frame frames

/-- Passes over the start of a value: all of it, or the bracket that opens it. -/
def skipStart (frames : List Frame) (cs : List Char) :
    Except Fault (SkipState × List Char) :=
  let whole (r : Except Fault (List Char)) : Except Fault (SkipState × List Char) :=
    r.map fun rest => (afterValue frames, rest)
  match skipBlank cs with
  | [] => .error (.past .endInValue [])
  | 'n' :: rest => whole (readWord ['u', 'l', 'l'] rest)
  | 't' :: rest => whole (readWord ['r', 'u', 'e'] rest)
  | 'f' :: rest => whole (readWord ['a', 'l', 's', 'e'] rest)
  | '"' :: rest => whole (skipChars (rest.length + 1) rest)
  | '-' :: rest => whole (skipNumber rest)
  | '[' :: rest => .ok (.next false .list frames, rest)
  | '\x7b' :: rest => .ok (.next false .object frames, rest)
  | c :: rest =>
    if isDigit c then whole (skipNumber (c :: rest))
    else .error (.past .expectedValue (c :: rest))

/-- Passes over the name of the next member, in an object, and its colon. -/
def skipName (frame : Frame) (frames : List Frame) (cs : List Char) :
    Except Fault (SkipState × List Char) :=
  match frame with
  | .list => .ok (.value (.list :: frames), cs)
  | .object =>
    match skipBlank cs with
    | [] => .error (.past .endInObject [])
    | '"' :: rest =>
      match skipChars (rest.length + 1) rest with
      | .error f => .error f
      | .ok rest => (readColon rest).map fun rest => (.value (.object :: frames), rest)
    | rest => .error (.past .keyNotText rest)

/-- One step of passing over what follows an opening bracket or a value. -/
def skipNext (comma : Bool) (frame : Frame) (frames : List Frame) (cs : List Char) :
    Except Fault (SkipState × List Char) :=
  match skipBlank cs, frame with
  | [], .list => .error (.past .endInList [])
  | [], .object => .error (.past .endInObject [])
  | ']' :: rest, .list => .ok (afterValue frames, rest)
  | '\x7d' :: rest, .object => .ok (afterValue frames, rest)
  | c :: rest, frame =>
    if comma then
      if c = ',' then skipName frame frames rest
      else
        match frame with
        | .list => .error (.past .expectedListComma (c :: rest))
        | .object => .error (.past .expectedObjectComma (c :: rest))
    else skipName frame frames (c :: rest)

/-- Passes over what `state` says is to come; the first argument bounds the steps. -/
def skipRun : Nat → SkipState → List Char → Except Fault (List Char)
  | _, .done, cs => .ok cs
  | 0, _, cs => .error (.past .endInValue cs)
  | fuel + 1, .value frames, cs =>
    match skipStart frames cs with
    | .error f => .error f
    | .ok (state, rest) => skipRun fuel state rest
  | fuel + 1, .next comma frame frames, cs =>
    match skipNext comma frame frames cs with
    | .error f => .error f
    | .ok (state, rest) => skipRun fuel state rest

/-- Passes over one value. -/
def skipValue (cs : List Char) : Except Fault (List Char) :=
  skipRun (2 * cs.length + 2) (.value []) cs

end Json

end ChatGateway
