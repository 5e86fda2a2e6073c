import ChatGateway.Gateway.Client
import ChatGateway.Path
import ChatGateway.Settings.Preferences

/-!
# What commands start from and what they leave

A command sees the environment, the files of the user, what is typed, the stored token
and the gateway.  It leaves what it printed, the code that it ends with, and the files
and the token as they are afterwards.
-/

set_option autoImplicit false

namespace ChatGateway.CommandLine

/-- What a command starts from. -/
structure World where
  /-- The home directory that the environment names, if it names one. -/
  home : Option String
  /-- The home directory that the system knows. -/
  systemHome : String
  /-- The directory for settings that the environment names, if it names one. -/
  settingsHome : Option String
  surroundings : Surroundings
  settings : File
  preferences : File
  /-- Why nothing can be added to the file for diagnostics, if that fails. -/
  logFault : Option DiskFault
  /-- What is typed. -/
  input : List UInt8
  stored : Token.Store
  server : Gateway.Server

/-- What a command leaves. -/
structure Report where
  /-- The code that the command ends with; `none` if it waits for ever. -/
  exit : Option Nat
  out : String
  err : String
  preferences : File
  stored : Token.Store
deriving Repr

namespace World

/-- The directory for settings.  The environment names it itself, by a path from the
root, or the home directory that it lies in. -/
def folder (w : World) : String :=
  let home := match w.home with
    | some h => if h = "" then w.systemHome else h
    | none => w.systemHome
  let settingsHome := w.settingsHome.filter fun s => s.toList.head? = some '/'
  Path.join (settingsHome.getD (Path.join home ".config")) "chatline"

/-- The file of settings. -/
def settingsPath (w : World) : String :=
  Path.join w.folder "config.toml"

/-- The file of preferences. -/
def preferencesPath (w : World) : String :=
  Path.join w.folder "state.toml"

/-- A report of a command that leaves the files and the token alone. -/
def report (w : World) (exit : Nat) (out err : String) : Report :=
  ⟨some exit, out, err, w.preferences, w.stored⟩

/-- How the gateway is reached: by the settings, the environment, the model that is asked
for, and the stored token. -/
def connection (w : World) (s : Settings) (model : Option String) : Connection :=
  (((Connection.ofSettings s).within w.surroundings).withModel model).withStoredToken
    w.stored.token

end World

/-- The kind of a fault of the disk. -/
def faultKind : DiskFault → String
  | .notText => "InvalidData"
  | .notFound => "NotFound"
  | .isBusy => "ResourceBusy"
  | .fileExists => "AlreadyExists"
  | .notDirectory => "NotADirectory"
  | .isDirectory => "IsADirectory"
  | .invalidName | .invalidFolder => "InvalidInput"
  | .nameTooLong => "InvalidFilename"

/-- A fault of the disk in the detail that a failed command shows. -/
def faultDetail (fault : DiskFault) : String :=
  let kind := "kind: " ++ faultKind fault ++ ", message: " ++ Text.quoted fault.words ++ " \x7d"
  match fault.number? with
  | none => "Error \x7b " ++ kind
  | some n => "Os \x7b code: " ++ toString n ++ ", " ++ kind

/-- What is printed when a command fails because of the file at `path`; why a file does
not parse is not said. -/
def fileError (path : String) (f : FileFailure) : String :=
  let place := " \x7b path: " ++ Text.quoted path
  "Error: " ++
    (match f with
      | .read fault => "Read" ++ place ++ ", source: " ++ faultDetail fault ++ " \x7d"
      | .parse => "Parse" ++ place ++ " \x7d"
      | .write fault => "Write" ++ place ++ ", source: " ++ faultDetail fault ++ " \x7d") ++ "\n"

end ChatGateway.CommandLine
