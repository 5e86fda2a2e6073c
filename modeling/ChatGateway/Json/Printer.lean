import ChatGateway.Json.Value
import ChatGateway.Decimal.Shortest
import ChatGateway.Text.Quoted

/-!
# Writing JSON values

A value is written without blanks.  Inside a text only the quote, the backslash and the
controls are escaped, those with a letter of their own by that letter and the others by
their number in four digits.
-/

set_option autoImplicit false

namespace ChatGateway

namespace Json

/-- How one character is written inside a text. -/
def escapedChar (c : Char) : List Char :=
  if c = '"' then ['\\', '"']
  else if c = '\\' then ['\\', '\\']
  else if c = '\x08' then ['\\', 'b']
  else if c = '\x0c' then ['\\', 'f']
  else if c = '\n' then ['\\', 'n']
  else if c = '\r' then ['\\', 'r']
  else if c = '\t' then ['\\', 't']
  else if c.toNat < 0x20 then
    ['\\', 'u', '0', '0', Text.hexDigit (c.toNat / 16), Text.hexDigit (c.toNat % 16)]
  else [c]

/-- A text between its quotes. -/
def printText (s : String) : List Char :=
  '"' :: s.toList.flatMap escapedChar ++ ['"']

/-- A number. -/
def printNumber : Number → List Char
  | .int n => (toString n).toList
  | .float bits => (Decimal.inMessages.render bits).toList

mutual

/-- The characters of a value. -/
def print : Json → List Char
  | .null => ['n', 'u', 'l', 'l']
  | .bool true => ['t', 'r', 'u', 'e']
  | .bool false => ['f', 'a', 'l', 's', 'e']
  | .number n => printNumber n
  | .str s => printText s
  | .arr items => '[' :: printItems items ++ [']']
  | .obj members => '\x7b' :: printMembers members ++ ['\x7d']

/-- The items of a list with commas between them. -/
def printItems : List Json → List Char
  | [] => []
  | [v] => print v
  | v :: w :: rest => print v ++ ',' :: printItems (w :: rest)

/-- The members of an object with commas between them. -/
def printMembers : List (String × Json) → List Char
  | [] => []
  | [(name, v)] => printText name ++ ':' :: print v
  | (name, v) :: m :: rest => printText name ++ ':' :: print v ++ ',' :: printMembers (m :: rest)

end

/-- The text of a value. -/
def toText (v : Json) : String :=
  String.ofList (print v)

example : toText (.obj [("a", .arr [.ofInt (-1), .null]), ("\n\"", .bool true)]) =
    "\x7b\"a\":[-1,null],\"\\n\\\"\":true\x7d" := by decide +kernel

end Json

end ChatGateway
