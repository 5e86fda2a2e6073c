import ChatGateway.Text.Blank

/-!
# Modes of a pattern

A pattern is read under modes, which it can change itself.  They say what counts as a
character, whether blanks and comments are left out, and whether case matters.  The
other modes decide only what a pattern matches, and nothing here depends on them.

A pattern is read without tables of characters.  So nothing is allowed that would need
them, and nothing that could match a part of a character.
-/

set_option autoImplicit false

namespace ChatGateway.Pattern

/-- How a part of a pattern is read. -/
structure Modes where
  /-- Whether letters stand for both of their cases. -/
  ignoresCase : Bool
  /-- Whether blanks and comments are left out. -/
  ignoresBlanks : Bool
  /-- Whether the pattern is about characters and not about bytes. -/
  isUnicode : Bool
deriving DecidableEq, Repr

namespace Modes

/-- The modes at the start of a pattern. -/
def standard : Modes :=
  ⟨false, false, true⟩

/-! ## Changes -/

/-- Whether a text says how modes change: letters, each at most once, and before those
that are switched off a minus. -/
def isChange (cs : List Char) : Bool :=
  cs.all (· ∈ ['i', 'm', 's', 'U', 'u', 'R', 'x', '-']) && cs.Nodup &&
    cs.getLast? ≠ some '-'

/-- The modes after the change that a text says. -/
def change (m : Modes) (cs : List Char) : Modes :=
  let on := cs.takeWhile (· ≠ '-')
  let switched (letter : Char) (before : Bool) : Bool :=
    if letter ∈ on then true else if letter ∈ cs then false else before
  ⟨switched 'i' m.ignoresCase, switched 'x' m.ignoresBlanks, switched 'u' m.isUnicode⟩

/-! ## Blanks and comments -/

/-- What follows the blanks and comments at the front of a text; the first argument says
whether the text starts inside a comment. -/
def afterIgnored : Bool → List Char → List Char
  | _, [] => []
  | true, c :: cs => afterIgnored (c ≠ '\n') cs
  | false, c :: cs =>
    if Text.isBlank c then afterIgnored false cs
    else if c = '#' then afterIgnored true cs
    else c :: cs

/-- What is read next of a text. -/
def skip (m : Modes) (cs : List Char) : List Char :=
  if m.ignoresBlanks then afterIgnored false cs else cs

/-- The character that decides whether the sign at the front of a text, which is not part
of `cs`, makes a range.  Of a comment only its mark is left out; where nothing but what
is left out follows, the first character decides. -/
def ahead? (m : Modes) (cs : List Char) : Option Char :=
  if m.ignoresBlanks then
    let next := match cs.dropWhile Text.isBlank with
      | '#' :: rest => (rest.dropWhile Text.isBlank).head?
      | rest => rest.head?
    next.or cs.head?
  else cs.head?

/-! ## What is allowed -/

/-- Whether a character may stand for itself; `isByte` says whether it is written by its
number in two digits. -/
def allows (m : Modes) (isByte : Bool) (c : Char) : Bool :=
  if m.isUnicode then !m.ignoresCase else !isByte || c.toNat < 0x80

/-- Whether a character may stand in brackets. -/
def allowsInBrackets (m : Modes) (c : Char) : Bool :=
  if m.isUnicode then !m.ignoresCase else c.toNat < 0x80

/-- Whether a named class of ASCII characters may stand in brackets. -/
def allowsNamed (m : Modes) (negated : Bool) : Bool :=
  if m.isUnicode then !m.ignoresCase else !negated

/-- Whether what brackets hold may be negated. -/
def allowsNegation (m : Modes) : Bool :=
  m.isUnicode

/-- Whether one of the letters for digits, blanks and word characters may follow a
backslash. -/
def allowsClass (m : Modes) (negated : Bool) : Bool :=
  !m.isUnicode && !negated

/-- Whether a pattern can ask for the edge of a word. -/
def allowsWordEdge (m : Modes) : Bool :=
  !m.isUnicode

/-- Whether a point may stand for any character. -/
def allowsPoint (m : Modes) : Bool :=
  m.isUnicode

example : standard.change "i-u".toList = ⟨true, false, false⟩ := by decide +kernel
example : isChange "i-i".toList = false := by decide +kernel
example : (standard.change ['x']).skip " # a\n b".toList = ['b'] := by decide +kernel

end Modes

end ChatGateway.Pattern
