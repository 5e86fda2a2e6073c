import ChatGateway.Text.Utf8
import ChatGateway.Toml.Reader

/-!
# Files of settings

A file is absent, a directory, or holds bytes.  Reading a file that is absent gives what
holds when nothing is set.  Writing replaces a file as a whole or, when the disk refuses,
leaves it as it is.
-/

set_option autoImplicit false

namespace ChatGateway

/-- What is found at a path. -/
inductive File
  | absent
  | directory
  | bytes (content : List UInt8)
deriving DecidableEq, Repr

/-- Why the disk refuses to read or to write. -/
inductive DiskFault
  | notText
  /-- A folder on the way does not exist. -/
  | notFound
  /-- The path leads back to a folder that is in use. -/
  | isBusy
  /-- A file stands where a directory is to be made. -/
  | fileExists
  /-- A file stands further up in the path. -/
  | notDirectory
  | isDirectory
  /-- The name has a character that no name may have. -/
  | invalidName
  /-- The same of the name of a directory. -/
  | invalidFolder
  | nameTooLong
deriving DecidableEq, Repr

namespace DiskFault

/-- The number that the system gives to a fault, if it is the system that finds it. -/
def number? : DiskFault → Option Nat
  | notText | invalidFolder => none
  | notFound => some 2
  | isBusy => some 16
  | fileExists => some 17
  | notDirectory => some 20
  | isDirectory => some 21
  | invalidName => some 22
  | nameTooLong => some 36

/-- The fault in words, without its number. -/
def words : DiskFault → String
  | notText => "stream did not contain valid UTF-8"
  | notFound => "No such file or directory"
  | isBusy => "Device or resource busy"
  | fileExists => "File exists"
  | notDirectory => "Not a directory"
  | isDirectory => "Is a directory"
  | invalidName => "Invalid argument"
  | invalidFolder => "file name contained an unexpected NUL byte"
  | nameTooLong => "File name too long"

/-- The fault in words. -/
def describe (fault : DiskFault) : String :=
  match fault.number? with
  | none => fault.words
  | some n => fault.words ++ " (os error " ++ toString n ++ ")"

end DiskFault

/-- Why a file of settings cannot be used. -/
inductive FileFailure
  | read (fault : DiskFault)
  /-- The file is not TOML or does not fit. -/
  | parse
  | write (fault : DiskFault)
deriving DecidableEq, Repr

/-- The failure for the file at `path`, in words; why a file does not parse is not said. -/
def FileFailure.describe (path : String) : FileFailure → String
  | .read fault => "Failed to read " ++ path ++ ": " ++ fault.describe
  | .parse => "Failed to parse " ++ path
  | .write fault => "Failed to write " ++ path ++ ": " ++ fault.describe

namespace File

/-- The text of a file, `none` if it is absent. -/
def text : File → Except DiskFault (Option (List Char))
  | absent => .ok none
  | directory => .error .isDirectory
  | bytes content =>
    match Text.Utf8.decode? content with
    | none => .error .notText
    | some cs => .ok (some cs)

/-- What a file holds, as `decode` understands its tables; `unset` when it is absent. -/
def load {α : Type} (decode : Toml.Members → Option α) (unset : α) (f : File) :
    Except FileFailure α :=
  match f.text with
  | .error fault => .error (.read fault)
  | .ok none => .ok unset
  | .ok (some cs) =>
    match (Toml.parse? cs).bind decode with
    | none => .error .parse
    | some x => .ok x

/-- The file after `text` was written in its place.  `refusal` is why the disk does not
allow that, if it does not; a directory is never replaced. -/
def replace (refusal : Option DiskFault) (text : String) (f : File) :
    Except FileFailure Unit × File :=
  match refusal with
  | some fault => (.error (.write fault), f)
  | none =>
    match f with
    | directory => (.error (.write .isDirectory), directory)
    | _ => (.ok (), bytes (Text.Utf8.encode text.toList))

/-- A write that fails leaves the file as it was. -/
theorem replace_error (refusal : Option DiskFault) (text : String) (f : File)
    (e : FileFailure) (h : (replace refusal text f).1 = .error e) :
    (replace refusal text f).2 = f := by
  cases refusal with
  | some fault => rfl
  | none => cases f <;> simp_all [replace]

end File

end ChatGateway
