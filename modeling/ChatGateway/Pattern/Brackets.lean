import ChatGateway.Pattern.Escape

/-!
# Brackets in a pattern

Brackets hold characters, ranges of characters, named classes and further brackets, one
after the other.  Such lists can be joined by `&&`, `--` and `~~`.  All that is kept of
brackets is how deep things are nested in them.
-/

set_option autoImplicit false

namespace ChatGateway.Pattern

/-- The depth of things one after the other, or of choices, from their depths: one alone
is no deeper than it is by itself. -/
def depthOfSeveral : List Nat → Nat
  | [] => 0
  | [depth] => depth
  | depth :: depths => depths.foldl max depth + 1

/-- Brackets that are still open. -/
structure Brackets where
  /-- The depths of the things in the list being read. -/
  depths : List Nat
  /-- The depth of what stands before the last sign that joins two lists. -/
  operand : Option Nat
deriving DecidableEq, Repr

namespace Brackets

/-- The depth of what the brackets hold. -/
def depth (b : Brackets) : Nat :=
  match b.operand with
  | none => depthOfSeveral b.depths
  | some left => max left (depthOfSeveral b.depths) + 1

/-- The brackets with one more thing in their list. -/
def add (b : Brackets) (depth : Nat) : Brackets :=
  { b with depths := depth :: b.depths }

/-- The brackets after a sign that joins two lists. -/
def join (b : Brackets) : Brackets :=
  ⟨[], some b.depth⟩

end Brackets

/-! ## Parts -/

/-- The classes of ASCII characters that have a name. -/
def namedClasses : List String :=
  ["alnum", "alpha", "ascii", "blank", "cntrl", "digit", "graph", "lower", "print",
    "punct", "space", "upper", "word", "xdigit"]

/-- Whether a named class is negated, and what follows it.  It stands in brackets and
colons of its own, of which the first bracket has been read. -/
def takeNamed : List Char → Option (Bool × List Char)
  | ':' :: cs =>
    let (negated, cs) := match cs with
      | '^' :: rest => (true, rest)
      | cs => (false, cs)
    if String.ofList (cs.takeWhile (· ≠ ':')) ∈ namedClasses then
      match cs.dropWhile (· ≠ ':') with
      | ':' :: ']' :: rest => some (negated, rest)
      | _ => none
    else none
  | _ => none

/-- Each minus at the front of brackets stands for itself: the list after them, which
starts with `depths`. -/
def takeMinuses (m : Modes) : Nat → List Nat → List Char → Option (List Nat × List Char)
  | fuel + 1, depths, '-' :: cs =>
    if m.allowsInBrackets '-' then takeMinuses m fuel (0 :: depths) (m.skip cs) else none
  | _, depths, cs => some (depths, cs)

/-- Brackets that have just been opened.  A closing bracket that comes first stands for
itself. -/
def openBrackets (m : Modes) (cs : List Char) : Option (Brackets × List Char) :=
  let (negated, cs) := match m.skip cs with
    | '^' :: rest => (true, m.skip rest)
    | cs => (false, cs)
  if negated ∧ !m.allowsNegation then none
  else
    (takeMinuses m cs.length [] cs).bind fun (depths, cs) =>
      match depths, cs with
      | [], ']' :: rest => if m.allowsInBrackets ']' then some (⟨[0], none⟩, rest) else none
      | depths, cs => some (⟨depths, none⟩, cs)

/-- One character or escape in brackets. -/
def takeMember (m : Modes) : List Char → Option (Atom × List Char)
  | [] => none
  | '\\' :: cs => takeEscape m cs
  | c :: cs => some (.literal false c, cs)

/-- Whether the modes allow in brackets what is denoted. -/
def Modes.allowsMember (m : Modes) : Atom → Bool
  | .literal _ c => m.allowsInBrackets c
  | .oneOf negated => m.allowsClass negated
  | .place _ => false

/-- What follows a character, a class or a range of characters in brackets. -/
def takeRange (m : Modes) (cs : List Char) : Option (List Char) :=
  (takeMember m cs).bind fun (first, rest) =>
    let alone (rest : List Char) : Option (List Char) :=
      if m.allowsMember first then some rest else none
    match m.skip rest with
    | '-' :: rest =>
      if m.ahead? rest = some ']' ∨ m.ahead? rest = some '-' then alone ('-' :: rest)
      else
        (takeMember m (m.skip rest)).bind fun (last, rest) =>
          match first, last with
          | .literal _ a, .literal _ b =>
            if a ≤ b ∧ m.allowsInBrackets a ∧ m.allowsInBrackets b then some rest else none
          | _, _ => none
    | rest => alone rest

/-! ## The whole -/

/-- The depth of brackets and what follows them.  The first argument bounds the length of
the text; then come the innermost open brackets and those around them. -/
def closeBrackets (m : Modes) : Nat → Brackets → List Brackets → List Char →
    Option (Nat × List Char)
  | 0, _, _, _ => none
  | fuel + 1, b, outer, cs =>
    match m.skip cs with
    | [] => none
    | ']' :: rest =>
      match outer with
      | [] => some (b.depth + 1, rest)
      | o :: outer => closeBrackets m fuel (o.add (b.depth + 1)) outer rest
    | '[' :: rest =>
      match takeNamed rest with
      | some (negated, rest) =>
        if m.allowsNamed negated then closeBrackets m fuel (b.add 0) outer rest else none
      | none =>
        (openBrackets m rest).bind fun (inner, rest) =>
          closeBrackets m fuel inner (b :: outer) rest
    | '&' :: '&' :: rest => closeBrackets m fuel b.join outer rest
    | '-' :: '-' :: rest => closeBrackets m fuel b.join outer rest
    | '~' :: '~' :: rest => closeBrackets m fuel b.join outer rest
    | cs => (takeRange m cs).bind fun rest => closeBrackets m fuel (b.add 0) outer rest

/-- The depth of brackets and what follows them, after the first one. -/
def takeBrackets (m : Modes) (cs : List Char) : Option (Nat × List Char) :=
  (openBrackets m cs).bind fun (b, rest) => closeBrackets m (rest.length + 1) b [] rest

example : takeBrackets .standard "a-z]x".toList = some (1, ['x']) := by decide +kernel
example : takeBrackets .standard "]".toList = none := by decide +kernel
example : takeBrackets .standard "a[b-[:alpha:]&&c]]".toList = none := by decide +kernel
example : takeBrackets .standard "a[b[:alpha:]&&c]]".toList = some (5, []) := by
  decide +kernel

end ChatGateway.Pattern
