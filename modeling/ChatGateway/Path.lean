/-!
# Paths and the home directory

A path is shown with `~` in place of the home directory when it lies below it.  Paths
are compared part by part: repeated slashes, a slash at the end and inner parts `.` do
not count, but a leading `.` and a leading slash are parts of their own.
-/

set_option autoImplicit false

namespace ChatGateway.Path

/-- A part of a path with the places in the path where it starts and ends. -/
structure Part where
  name : List Char
  start : Nat
  stop : Nat
deriving DecidableEq, Repr

/-- The segments between slashes in `cs`, which starts at `start`, with their places.
The second argument is the segment being read, last character first. -/
def segments (start : Nat) : List Char → List Char → List Part
  | run, [] => [⟨run.reverse, start, start + run.length⟩]
  | run, c :: cs =>
    if c = '/' then
      ⟨run.reverse, start, start + run.length⟩ :: segments (start + run.length + 1) [] cs
    else segments start (c :: run) cs

/-- The parts of a path. -/
def parts (path : List Char) : List Part :=
  let inner (start : Nat) (cs : List Char) : List Part :=
    (segments start [] cs).filter fun p => p.name ≠ [] ∧ p.name ≠ ['.']
  match path with
  | '/' :: rest => ⟨['/'], 0, 1⟩ :: inner 1 rest
  | '.' :: '/' :: rest => ⟨['.'], 0, 1⟩ :: inner 2 rest
  | ['.'] => [⟨['.'], 0, 1⟩]
  | path => inner 0 path

/-- The parts of a path below the parts of `base`, if it lies below it. -/
def partsBelow : List Part → List Part → Option (List Part)
  | [], ps => some ps
  | _ :: _, [] => none
  | b :: bs, p :: ps => if b.name = p.name then partsBelow bs ps else none

/-- The end of the last of some parts. -/
def lastStop (ps : List Part) : Nat :=
  match ps.getLast? with
  | some p => p.stop
  | none => 0

/-- What of a path lies below `base`, as it is spelled in the path. -/
def below? (base path : List Char) : Option (List Char) :=
  (partsBelow (parts base) (parts path)).map fun rest =>
    match rest with
    | [] => []
    | p :: _ =>
      let start := if (parts base).isEmpty then 0 else p.start
      (path.take (lastStop rest)).drop start

/-- The path as it is shown when `home` is the home directory, if there is one. -/
def display (home : Option String) (path : String) : String :=
  match home with
  | none => path
  | some home =>
    match below? home.toList path.toList with
    | none => path
    | some rest => "~/" ++ String.ofList rest

/-- The path of `name` in the directory `folder`. -/
def join (folder name : String) : String :=
  if folder = "" ∨ folder.toList.getLast? = some '/' then folder ++ name
  else folder ++ "/" ++ name

example : display (some "/home/u") "/home/u//x//y/" = "~/x//y" := by decide +kernel
example : display (some "/home/u") "/home/user/x" = "/home/user/x" := by decide +kernel
example : display (some "") "/a/b" = "~//a/b" := by decide +kernel

end ChatGateway.Path
