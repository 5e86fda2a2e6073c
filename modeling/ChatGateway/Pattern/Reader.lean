import ChatGateway.Pattern.Brackets
import ChatGateway.Text.Alphanumeric

/-!
# Patterns

A pattern is a regular expression: characters, brackets and groups, one after the other,
each of which may be repeated, and bars between choices.  Whether a text is a pattern
depends on its marks, on the modes at each place and on how deep things are nested.
-/

set_option autoImplicit false

namespace ChatGateway.Pattern

/-- One of the things that stand one after the other. -/
structure Item where
  /-- How deep things are nested in it. -/
  depth : Nat
  /-- Whether a sign of repetition may follow it; none may follow a change of modes. -/
  isRepeatable : Bool
deriving DecidableEq, Repr

/-- What has been read of the pattern, or of a group in it. -/
structure Group where
  /-- The items of the choice being read, the last one first. -/
  items : List Item
  /-- The depths of the choices before it. -/
  choices : List Nat
  /-- The modes at this place. -/
  modes : Modes
deriving DecidableEq, Repr

namespace Group

/-- The depth of the choice being read. -/
def choiceDepth (g : Group) : Nat :=
  depthOfSeveral (g.items.map Item.depth)

/-- The depth of what has been read. -/
def depth (g : Group) : Nat :=
  depthOfSeveral (g.choiceDepth :: g.choices)

/-- The group with one more item. -/
def add (g : Group) (depth : Nat) : Group :=
  { g with items := ⟨depth, true⟩ :: g.items }

/-- The group after a bar. -/
def nextChoice (g : Group) : Group :=
  { g with items := [], choices := g.choiceDepth :: g.choices }

/-- The group after a sign of repetition. -/
def repeated? (g : Group) : Option Group :=
  match g.items with
  | ⟨depth, true⟩ :: rest => some { g with items := ⟨depth + 1, true⟩ :: rest }
  | _ => none

/-- The group after a change of modes. -/
def changed (g : Group) (change : List Char) : Group :=
  { g with items := ⟨0, false⟩ :: g.items, modes := g.modes.change change }

/-- A group inside this one that has just been opened, under a change of modes. -/
def inner (g : Group) (change : List Char) : Group :=
  ⟨[], [], g.modes.change change⟩

end Group

/-- What has been read of a pattern. -/
structure Reading where
  /-- The innermost group that is open, which may be the whole pattern. -/
  group : Group
  /-- The groups around it, the inner ones first. -/
  outer : List Group
  /-- The names of groups. -/
  names : List (List Char)
deriving DecidableEq, Repr

namespace Reading

/-- The state before anything has been read. -/
def start : Reading :=
  ⟨⟨[], [], .standard⟩, [], []⟩

/-- Whether a text can name a group. -/
def isName : List Char → Bool
  | [] => false
  | c :: cs =>
    (c = '_' || Text.isAlphabetic c) &&
      cs.all fun c => c ∈ ['_', '.', '[', ']'] || Text.isAlphanumeric c

/-- The state after the start of a group with a name, which is read first; names are all
different. -/
def openNamed (r : Reading) (cs : List Char) : Option (Reading × List Char) :=
  let name := cs.takeWhile (· ≠ '>')
  match cs.dropWhile (· ≠ '>') with
  | '>' :: rest =>
    if isName name ∧ name ∉ r.names then
      some (⟨r.group.inner [], r.group :: r.outer, name :: r.names⟩, rest)
    else none
  | _ => none

/-- The state after an opening parenthesis and what belongs to it: a name, a change of
modes, or both parentheses of a change that holds from here on. -/
def openGroup (r : Reading) (cs : List Char) : Option (Reading × List Char) :=
  match r.group.modes.skip cs with
  | '?' :: 'P' :: '<' :: rest => r.openNamed rest
  | '?' :: '<' :: rest => r.openNamed rest
  | '?' :: rest =>
    let change := rest.takeWhile fun c => c ≠ ':' ∧ c ≠ ')'
    if Modes.isChange change then
      match rest.dropWhile fun c => c ≠ ':' ∧ c ≠ ')' with
      | ':' :: rest =>
        some ({ r with group := r.group.inner change, outer := r.group :: r.outer }, rest)
      | ')' :: rest =>
        if change.isEmpty then none
        else some ({ r with group := r.group.changed change }, rest)
      | _ => none
    else none
  | rest => some ({ r with group := r.group.inner [], outer := r.group :: r.outer }, rest)

/-- The state after a closing parenthesis. -/
def closeGroup (r : Reading) : Option Reading :=
  match r.outer with
  | [] => none
  | g :: outer => some { r with group := g.add (r.group.depth + 1), outer := outer }

/-- The state after the part of a pattern that starts with `c`, and what is left. -/
def step (r : Reading) (c : Char) (cs : List Char) : Option (Reading × List Char) :=
  let g := r.group
  let added (depth : Nat) : Reading := { r with group := g.add depth }
  match c with
  | '(' => r.openGroup cs
  | ')' => r.closeGroup.map (·, cs)
  | '|' => some ({ r with group := g.nextChoice }, cs)
  | '[' => (takeBrackets g.modes cs).map fun (depth, rest) => (added depth, rest)
  | '?' | '*' | '+' =>
    let rest := match cs with
      | '?' :: rest => rest
      | cs => cs
    g.repeated?.map fun g => ({ r with group := g }, rest)
  -- a number of repetitions would need the brace that ends the field
  | '{' => none
  | '\\' =>
    (takeEscape g.modes cs).bind fun (atom, rest) =>
      if g.modes.allowsAtom atom then some (added 0, rest) else none
  | '.' => if g.modes.allowsPoint then some (added 0, cs) else none
  | '^' | '$' => some (added 0, cs)
  | c => if g.modes.allows false c then some (added 0, cs) else none

/-- The state after all of a text, whose length the first argument bounds. -/
def readAll : Nat → Reading → List Char → Option Reading
  | 0, _, _ => none
  | fuel + 1, r, cs =>
    match r.group.modes.skip cs with
    | [] => some r
    | c :: cs => (r.step c cs).bind fun (r, cs) => readAll fuel r cs

end Reading

/-- How deep things may be nested in a pattern. -/
def maxDepth : Nat := 250

/-- Whether a text without a closing brace is a pattern. -/
def isPattern (s : String) : Bool :=
  match Reading.readAll (s.length + 1) .start s.toList with
  | some r => r.outer.isEmpty && r.group.depth ≤ maxDepth
  | none => false

example : isPattern "a.*(b|[c-e]+)?$" = true := by decide +kernel
example : isPattern "(?P<x>a)(?x) # (" = true := by decide +kernel
example : isPattern "*" = false ∧ isPattern "(?i)*" = false := by decide +kernel
example : isPattern "(a" = false ∧ isPattern "a)" = false := by decide +kernel
example : isPattern "\\d" = false ∧ isPattern "(?-u)\\d" = true := by decide +kernel

end ChatGateway.Pattern
