import ChatGateway.Url.Name.Direction
import ChatGateway.Url.Name.Joining
import ChatGateway.Url.Name.Mapping
import ChatGateway.Url.Punycode

/-!
# Names of hosts

A name is labels between full stops.  It is written in ASCII: its characters become what
they are compared as, and a label with characters beyond ASCII is spelled by `xn--` and
ASCII letters and digits.  A label that is given so spelled has to stand for one that
could have been given as it is.
-/

set_option autoImplicit false

namespace ChatGateway.Url.Name

/-- The pieces of a text between the characters `mark`; the first argument holds the
piece being read, last character first. -/
def splitAt (mark : Char) (piece : List Char) : List Char → List (List Char)
  | [] => [piece.reverse]
  | c :: cs =>
    if c = mark then piece.reverse :: splitAt mark [] cs else splitAt mark (c :: piece) cs

/-- Whether `c` can stand in no name. -/
def isForbidden (c : Char) : Bool :=
  c.toNat ≤ 0x20 || c.toNat = 0x7F ||
    ['#', '%', '/', ':', '<', '>', '?', '@', '[', '\\', ']', '^', '|'].contains c

/-- Whether a label does not begin with a mark, has its joiners where they may stand, and
no character that can stand in no name. -/
def isSound (label : List Char) : Bool :=
  !(label.head?.any Text.isMark) && joinersFit [] label && !label.any isForbidden

/-- A label that is spelled with `xn--`, of which this is the rest, as it is meant. -/
def spelledOut? (rest : List Char) : Option (List Char) :=
  if 2000 < rest.length ∨ rest.getLast? = none ∨ rest.getLast? = some '-' then none
  else
    match Punycode.decodeLabel? rest with
    | none => none
    | some label => if folded? label = some label then some label else none

/-- A label as it is meant: one that is spelled with `xn--` has to be all ASCII. -/
def meant? : List Char → Option (List Char)
  | 'x' :: 'n' :: '-' :: '-' :: rest =>
    if rest.all fun c => c.toNat < 0x80 then spelledOut? rest else none
  | label => some label

/-- A label in ASCII; one that is too long is none. -/
def ascii? (label : List Char) : Option (List Char) :=
  if (label.all fun c => c.toNat < 0x80) ∨ label.length ≤ 1000 then
    some (Punycode.encodeLabel label)
  else none

/-- A name in ASCII. -/
def normal? (name : List Char) : Option (List Char) := do
  let labels ← (splitAt '.' [] (← folded? name)).mapM meant?
  if !labels.all isSound then none
  else if labels.any isRightward ∧
      !labels.all fun label => directionsAgree (label.map Direction.ofChar) then none
  else some (['.'].intercalate (← labels.mapM ascii?))

example : normal? "Bücher.Example".toList = some "xn--bcher-kva.example".toList := by
  decide +kernel
example : normal? "XN--BCHER-KVA".toList = some "xn--bcher-kva".toList := by decide +kernel
example : normal? "xn--a".toList = none ∧ normal? "xn--".toList = none := by decide +kernel
example : normal? ['1', '.', '\u0645'] = none := by decide +kernel

end ChatGateway.Url.Name
