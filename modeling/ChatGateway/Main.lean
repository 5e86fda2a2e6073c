import ChatGateway.CommandLine.Run
import ChatGateway.LogFilter

/-!
# The program

Reads the files, the environment and what is typed, carries the command out and writes
what it left.  The gateway is not reached from here: every request fails as one without a
connection.
-/

set_option autoImplicit false

namespace ChatGateway.Main

open ChatGateway.CommandLine

/-- What is found at a path. -/
def readFile (path : String) : IO File := do
  try
    pure (.bytes (← IO.FS.readBinFile path).toList)
  catch
    | .noFileOrDirectory .. => pure .absent
    | _ => pure .directory

/-- Writes a file that has changed. -/
def writeFile (path : String) (before after : File) : IO Unit :=
  match after with
  | .bytes content =>
    if before = after then pure () else IO.FS.writeBinFile path content.toByteArray
  | _ => pure ()

/-- Why nothing can be added to a file, which is made if it is not there. -/
def appendFault? (path : String) : IO (Option DiskFault) := do
  try
    discard (IO.FS.Handle.mk path .append)
    pure none
  catch
    | .noFileOrDirectory .. => pure (some .notFound)
    | .inappropriateType .. => pure (some .isDirectory)
    | e => throw e

/-- The world that a command starts from. -/
def readWorld (i : Invocation) : IO World := do
  let logFault ← match i.logFile with
    | none => pure none
    | some path => appendFault? path
  let surroundings : Surroundings :=
    ⟨← IO.getEnv "CHATLINE_BASE_URL", ← IO.getEnv "CHATLINE_API_TOKEN"⟩
  let draft : World :=
    { home := ← IO.getEnv "HOME", systemHome := "/",
      settingsHome := ← IO.getEnv "XDG_CONFIG_HOME", surroundings, settings := .absent,
      preferences := .absent, logFault, input := [], stored := {},
      server := Gateway.unreachable }
  let settings ← readFile draft.settingsPath
  let preferences ← readFile draft.preferencesPath
  let reads := i.command = .storeToken && logFault.isNone
  let input ← if reads then (·.toUTF8.toList) <$> (← IO.getStdin).getLine else pure []
  pure { draft with settings, preferences, input }

/-- Carries an invocation out. -/
def carryOut (i : Invocation) : IO UInt32 := do
  let w ← readWorld i
  let r := run w i.command
  (← IO.getStdout).putStr r.out
  (← IO.getStderr).putStr r.err
  writeFile w.preferencesPath w.preferences r.preferences
  pure (r.exit.getD 1).toUInt32

end ChatGateway.Main

/-- Runs the command line. -/
def main (args : List String) : IO UInt32 := do
  match ChatGateway.CommandLine.parse args with
  | .ok i => ChatGateway.Main.carryOut i
  | .error e => pure e.exitCode.toUInt32
