import ChatGateway.Pattern.Modes

/-!
# Escapes in a pattern

After a backslash a mark stands for itself, and a letter for a control character, a
character by its number, a class of characters or a place in the text.
-/

set_option autoImplicit false

namespace ChatGateway.Pattern

/-- What one character or escape of a pattern denotes. -/
inductive Atom
  /-- A character; `isByte` says whether it is written by its number in two digits. -/
  | literal (isByte : Bool) (c : Char)
  /-- A class of characters, or all others. -/
  | oneOf (negated : Bool)
  /-- A place in the text, which may be the edge of a word. -/
  | place (isWordEdge : Bool)
deriving DecidableEq, Repr

/-- The value of a hexadecimal digit. -/
def hexValue? (c : Char) : Option Nat :=
  if c.isDigit then some (c.toNat - 48)
  else if 'a' ≤ c ∧ c ≤ 'f' then some (c.toNat - 87)
  else if 'A' ≤ c ∧ c ≤ 'F' then some (c.toNat - 55)
  else none

/-- The number that so many hexadecimal digits denote, after `value`, with what is left. -/
def takeNumber (m : Modes) : Nat → Nat → List Char → Option (Nat × List Char)
  | 0, value, cs => some (value, cs)
  | _ + 1, _, [] => none
  | n + 1, value, c :: cs =>
    (hexValue? c).bind fun d => takeNumber m n (value * 16 + d) (m.skip cs)

/-- The character whose number is written in so many digits. -/
def takeNumbered (m : Modes) (digits : Nat) (cs : List Char) : Option (Atom × List Char) :=
  (takeNumber m digits 0 (m.skip cs)).bind fun (value, rest) =>
    if value < 0xD800 ∨ (0xDFFF < value ∧ value < 0x110000) then
      some (.literal (digits = 2) (Char.ofNat value), rest)
    else none

/-- Whether a backslash before `c` makes it stand for itself. -/
def isMark (c : Char) : Bool :=
  c.toNat < 0x80 && !c.isAlphanum && c ≠ '<' && c ≠ '>'

/-- What an escape denotes, after its backslash, with what is left. -/
def takeEscape (m : Modes) : List Char → Option (Atom × List Char)
  | [] => none
  | c :: cs =>
    if isMark c then some (.literal false c, cs)
    else
      match c with
      | 'x' => takeNumbered m 2 cs
      | 'u' => takeNumbered m 4 cs
      | 'U' => takeNumbered m 8 cs
      | 'a' => some (.literal false '\x07', cs)
      | 't' => some (.literal false '\t', cs)
      | 'n' => some (.literal false '\n', cs)
      | 'v' => some (.literal false '\x0b', cs)
      | 'f' => some (.literal false '\x0c', cs)
      | 'r' => some (.literal false '\r', cs)
      | 'd' | 's' | 'w' => some (.oneOf false, cs)
      | 'D' | 'S' | 'W' => some (.oneOf true, cs)
      | 'A' | 'z' => some (.place false, cs)
      | 'b' | 'B' | '<' | '>' => some (.place true, cs)
      | _ => none

/-- Whether the modes allow what is denoted, outside brackets. -/
def Modes.allowsAtom (m : Modes) : Atom → Bool
  | .literal isByte c => m.allows isByte c
  | .oneOf negated => m.allowsClass negated
  | .place isWordEdge => !isWordEdge || m.allowsWordEdge

example : takeEscape .standard "x41b".toList = some (.literal true 'A', ['b']) := by
  decide +kernel
example : takeEscape .standard "1".toList = none := by decide +kernel

end ChatGateway.Pattern
