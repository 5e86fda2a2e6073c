import ChatGateway.CommandLine.Chat
import ChatGateway.CommandLine.Command
import ChatGateway.CommandLine.Sessions

/-!
# Carrying commands out

The commands about settings and tokens are carried out here; every command leaves a
report.
-/

set_option autoImplicit false

namespace ChatGateway.CommandLine

/-- Prints how the gateway is reached. -/
def runSettings (w : World) : Report :=
  match Settings.load w.settings with
  | .error f => w.report 1 "" (fileError w.settingsPath f)
  | .ok settings =>
    w.report 0
      ("Config file: " ++ Path.display w.home w.settingsPath ++ "\n" ++
        (w.connection settings none).report) ""

/-- The bytes of the first line, with its line feed. -/
def firstLine : List UInt8 → List UInt8
  | [] => []
  | b :: bs => if b = 10 then [b] else b :: firstLine bs

/-- Stores the token that is typed. -/
def runStoreToken (w : World) : Report :=
  let prompt := "Gateway token: "
  match Text.Utf8.decode? (firstLine w.input) with
  | none => w.report 1 prompt ("Error: " ++ faultDetail .notText ++ "\n")
  | some line =>
    match Token.normalize (String.ofList line) with
    | none => w.report 1 prompt "❌ No token entered\n"
    | some token =>
      { w.report 0 (prompt ++ "✅ Token stored in the system keyring\n")
          (if w.surroundings.token.isSome then
            "⚠️  CHATLINE_API_TOKEN is set and takes precedence over the stored token\n"
           else "") with
        stored := ⟨some token⟩ }

/-- Removes the stored token. -/
def runDropToken (w : World) : Report :=
  let (removed, stored) := w.stored.clear
  { w.report 0
      (if removed then "✅ Token removed from the system keyring\n"
       else "No stored token to remove\n") "" with
    stored := stored }

/-- Carries a command out; nothing is done if there is no place for diagnostics. -/
def run (w : World) (c : Command) : Report :=
  match w.logFault with
  | some fault => w.report 1 "" ("Error: " ++ faultDetail fault ++ "\n")
  | none =>
    match c with
    | .chat message thread fresh model => runChat w message thread fresh model
    | .sessions refresh => runSessions w refresh
    | .session id => runSession w id
    | .settings => runSettings w
    | .storeToken => runStoreToken w
    | .dropToken => runDropToken w

end ChatGateway.CommandLine
