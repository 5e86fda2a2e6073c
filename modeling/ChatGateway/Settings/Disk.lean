import ChatGateway.Path
import ChatGateway.Settings.Preferences

/-!
# Files on a disk

A disk is a tree of named files and directories.  A path leads through it part by part:
a part `.` stays where it is and `..` goes one up, and each part but the last has to be
a directory that exists.  To save a file its directories are made first; they stay even
if the file is refused afterwards.
-/

set_option autoImplicit false

namespace ChatGateway

/-- The names that lead from the root of a disk to a file. -/
abbrev Disk.Place := List String

/-- What a path says. -/
structure Disk.Address where
  /-- Whether the path starts at the root. -/
  isAbsolute : Bool
  parts : List String
  /-- Whether a slash at the end asks for a directory. -/
  endsInSlash : Bool
deriving DecidableEq, Repr

/-- What a path says; several slashes are as good as one. -/
def Disk.Address.ofPath (path : String) : Disk.Address :=
  let names := (Path.segments 0 [] path.toList).map fun p => String.ofList p.name
  ⟨path.toList.head? = some '/', names.filter (· ≠ ""), names.getLast? = some ""⟩

/-- The parts of the directory that a path lies in. -/
def Disk.Address.folder (a : Disk.Address) : List String :=
  (a.parts.filter (· ≠ ".")).dropLast

/-- Whether a name or path holds the one character that none may hold. -/
def Disk.isNul (c : Char) : Bool :=
  c = '\x00'

/-- A tree of files. -/
structure Disk where
  /-- The directory that paths start from unless they start at the root. -/
  base : Disk.Place := []
  /-- What stands at the places below the root. -/
  entries : List (Disk.Place × File) := []
deriving DecidableEq, Repr

namespace Disk

/-- The greatest number of bytes in a name. -/
def maxName : Nat := 255

/-- The greatest number of bytes in a path. -/
def maxPath : Nat := 4095

/-- What stands at a place. -/
def find (d : Disk) (p : Place) : File :=
  if p.isEmpty then .directory else (d.entries.lookup p).getD .absent

/-- The disk with something put at a place. -/
def put (d : Disk) (p : Place) (f : File) : Disk :=
  { d with entries := (p, f) :: d.entries.filter (·.1 ≠ p) }

/-- Where the parts of a path lead from a place. -/
def walk (d : Disk) : Place → List String → Except DiskFault Place
  | p, [] => .ok p
  | p, name :: rest =>
    if d.find p ≠ .directory then .error .notDirectory
    else if name = "." then walk d p rest
    else if name = ".." then walk d p.dropLast rest
    else if maxName < name.utf8ByteSize then .error .nameTooLong
    else if d.find (p ++ [name]) = .absent then .error .notFound
    else walk d (p ++ [name]) rest

/-- Where a path starts. -/
def start (d : Disk) (a : Address) : Place :=
  if a.isAbsolute then [] else d.base

/-- The directory that the last part of a path is looked for in. -/
def folderOf (d : Disk) (a : Address) (parts : List String) : Except DiskFault Place :=
  match d.walk (d.start a) parts.dropLast with
  | .error fault => .error fault
  | .ok p => if d.find p = .directory then .ok p else .error .notDirectory

/-- What is found at a path. -/
def file (d : Disk) (path : String) : File :=
  let a := Address.ofPath path
  if path = "" ∨ path.toList.any isNul ∨ maxPath < path.utf8ByteSize then .absent
  else
    match d.walk (d.start a) (a.parts ++ if a.endsInSlash then ["."] else []) with
    | .ok p => d.find p
    | .error _ => .absent

/-! ## Directories -/

/-- The disk with one more directory, or why it cannot be made. -/
def makeFolder (d : Disk) (a : Address) (parts : List String) : Except DiskFault Disk :=
  if parts.any fun name => name.toList.any isNul then .error .invalidFolder
  else if maxPath < ("/".intercalate parts).utf8ByteSize then .error .nameTooLong
  else
    match d.folderOf a parts, parts.getLast? with
    | .error fault, _ => .error fault
    | .ok _, none => .error .fileExists
    | .ok p, some name =>
      if name = "." ∨ name = ".." then .error .fileExists
      else if maxName < name.utf8ByteSize then .error .nameTooLong
      else if d.find (p ++ [name]) ≠ .absent then .error .fileExists
      else .ok (d.put (p ++ [name]) .directory)

/-- The disk with one more directory, which may be there already. -/
def ensureFolder (d : Disk) (a : Address) (parts : List String) : Except DiskFault Disk :=
  match d.makeFolder a parts with
  | .ok d => .ok d
  | .error fault =>
    match d.walk (d.start a) parts with
    | .ok p => if d.find p = .directory then .ok d else .error fault
    | .error _ => .error fault

/-- The disk after a directory and those that it lies in were made, the last part of
whose path comes first; and why that failed, if it did. -/
def makeFolders (d : Disk) (a : Address) : List String → Option DiskFault × Disk
  | [] => (none, d)
  | name :: up =>
    match d.ensureFolder a (name :: up).reverse with
    | .ok d => (none, d)
    | .error .notFound =>
      match makeFolders d a up with
      | (some fault, d) => (some fault, d)
      | (none, d) =>
        match d.ensureFolder a (name :: up).reverse with
        | .ok d => (none, d)
        | .error fault => (some fault, d)
    | .error fault => (some fault, d)

/-! ## Saving -/

/-- The place that a file gets at a path, or why none can be put there. -/
def target (d : Disk) (path : String) : Except DiskFault Place :=
  let a := Address.ofPath path
  if path.toList.any isNul then .error .invalidName
  else if maxPath < path.utf8ByteSize then .error .nameTooLong
  else
    match d.folderOf a a.parts, a.parts.getLast? with
    | .error fault, _ => .error fault
    | .ok _, none => .error .isBusy
    | .ok p, some name =>
      if name = "." ∨ name = ".." then .error .isBusy
      else if maxName < name.utf8ByteSize then .error .nameTooLong
      else if a.endsInSlash then .error .notDirectory
      else .ok (p ++ [name])

/-- The disk with a directory at a path, as far as it can be made. -/
def addFolder (d : Disk) (path : String) : Disk :=
  let a := Address.ofPath path
  (d.makeFolders a (a.parts.filter (· ≠ ".")).reverse).2

/-- The disk with something put at a path, whose directories are made. -/
def write (d : Disk) (path : String) (f : File) : Disk :=
  let a := Address.ofPath path
  let d := (d.makeFolders a a.folder.reverse).2
  match d.target path with
  | .ok p => d.put p f
  | .error _ => d

/-- Lets `save` replace the file at a path.  It is told why the disk refuses that, and
given the file as it was before directories were made. -/
def replaceAt {α : Type} (d : Disk) (path : String)
    (save : Option DiskFault → File → Except FileFailure α × File) :
    Except FileFailure α × Disk :=
  let a := Address.ofPath path
  let before := d.file path
  match d.makeFolders a a.folder.reverse with
  | (some fault, d) => ((save (some fault) before).1, d)
  | (none, d) =>
    match d.target path with
    | .error fault => ((save (some fault) before).1, d)
    | .ok p =>
      match save (if d.find p = .directory then some .isDirectory else none) before with
      | (.ok x, f) => (.ok x, d.put p f)
      | (.error e, _) => (.error e, d)

/-- Saves settings at a path. -/
def saveSettings (d : Disk) (path : String) (s : Settings) : Except FileFailure Unit × Disk :=
  d.replaceAt path fun refusal f => s.save refusal f

/-- Changes the preferences at a path. -/
def updatePreferences (d : Disk) (path : String) (change : Preferences → Preferences) :
    Except FileFailure Preferences × Disk :=
  d.replaceAt path fun refusal f => Preferences.update refusal change f

/-! ## Adding to a file -/

/-- Why nothing can be added to the file at a path, which is made if it is not there. -/
def appendFault? (d : Disk) (path : String) : Option DiskFault :=
  let a := Address.ofPath path
  if path.toList.any isNul then some .invalidFolder
  else if path = "" then some .notFound
  else if maxPath < path.utf8ByteSize then some .nameTooLong
  else
    match d.folderOf a a.parts, a.parts.getLast? with
    | .error fault, _ => some fault
    | .ok _, none => some .isDirectory
    | .ok p, some name =>
      if a.endsInSlash ∨ name = "." ∨ name = ".." then some .isDirectory
      else if maxName < name.utf8ByteSize then some .nameTooLong
      else if d.find (p ++ [name]) = .directory then some .isDirectory
      else none

example : (({} : Disk).saveSettings "a/../b/c" {}).2.file "b/./c" ≠ .absent := by decide +kernel
example : ({} : Disk).appendFault? "a/b" = some .notFound := by decide +kernel
example : (({} : Disk).target "a/b/..").toOption = none := by decide +kernel

end Disk

end ChatGateway
