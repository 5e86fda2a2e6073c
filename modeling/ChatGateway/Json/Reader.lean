import ChatGateway.Json.Scan

/-!
# Reading a JSON value

A value that is kept may nest at most 127 deep.  A text is one value with blanks around
it and nothing else.
-/

set_option autoImplicit false

namespace ChatGateway

namespace Json

/-- How deep the lists and objects of a text may nest. -/
def maxDepth : Nat :=
  127

/-- A value whose lists and objects nest at most `depth` deep. -/
def readValue (depth : Nat) : Reader Json := fun cs =>
  match skipBlank cs with
  | [] => .error (.past .endInValue [])
  | 'n' :: rest => (readWord ['u', 'l', 'l'] rest).map fun rest => (.null, rest)
  | 't' :: rest => (readWord ['r', 'u', 'e'] rest).map fun rest => (.bool true, rest)
  | 'f' :: rest => (readWord ['a', 'l', 's', 'e'] rest).map fun rest => (.bool false, rest)
  | '"' :: rest => (readText rest).map fun (s, rest) => (.str s, rest)
  | '-' :: rest => (readNumber false rest).map fun (n, rest) => (.number n, rest)
  | '[' :: rest =>
    match depth with
    | 0 => .error (.past .tooDeep ('[' :: rest))
    | depth + 1 =>
      (readItems (readValue depth) (rest.length + 1) true [] rest).map
        fun (items, rest) => (.arr items, rest)
  | '\x7b' :: rest =>
    match depth with
    | 0 => .error (.past .tooDeep ('\x7b' :: rest))
    | depth + 1 =>
      (readMembers (readValue depth) (rest.length + 1) true [] rest).map
        fun (members, rest) => (.obj members, rest)
  | c :: rest =>
    if isDigit c then (readNumber true (c :: rest)).map fun (n, rest) => (.number n, rest)
    else .error (.past .expectedValue (c :: rest))
termination_by depth

/-- The whole of a text read by `reader`, with nothing but blanks after it. -/
def readWhole {α : Type} (reader : Reader α) (cs : List Char) : Except Fault α :=
  match reader cs with
  | .error f => .error f
  | .ok (x, rest) =>
    match skipBlank rest with
    | [] => .ok x
    | rest => .error (.past .trailingCharacters rest)

/-- The value that a text denotes. -/
def ofChars (cs : List Char) : Except Refusal Json :=
  match readWhole (readValue maxDepth) cs with
  | .error f => .error (f.inText cs)
  | .ok v => .ok v

/-- The value that a text denotes. -/
def ofText (s : String) : Except Refusal Json :=
  ofChars s.toList

end Json

end ChatGateway
