import ChatGateway.CommandLine.Words

/-!
# Commands

What the user can ask for, and how it is read from the words of a command line.  The
option for the log file may stand before or after the name of the command; the one after
it counts.
-/

set_option autoImplicit false

namespace ChatGateway.CommandLine

/-- What the user asks for. -/
inductive Command
  /-- Sends a message; `fresh` asks for a new thread. -/
  | chat (message : List String) (thread : Option String) (fresh : Bool) (model : Option String)
  /-- Lists the remote sessions; `refresh` asks the gateway once more. -/
  | sessions (refresh : Bool)
  /-- Shows one remote session. -/
  | session (id : String)
  /-- Prints the effective settings. -/
  | settings
  /-- Stores a token. -/
  | storeToken
  /-- Removes the stored token. -/
  | dropToken
deriving DecidableEq, Repr

/-- A command with the file that diagnostics go to. -/
structure Invocation where
  command : Command
  logFile : Option String
deriving DecidableEq, Repr

/-- The names of the commands. -/
inductive Name
  | chat
  | sessions
  | session
  | settings
  | storeToken
  | dropToken
deriving DecidableEq, Repr

namespace Name

/-- All names. -/
def all : List Name :=
  [chat, sessions, session, settings, storeToken, dropToken]

/-- A name as it is written. -/
def word : Name → String
  | chat => "chat"
  | sessions => "sessions"
  | session => "session"
  | settings => "config"
  | storeToken => "auth"
  | dropToken => "deauth"

/-- What the words after a name may be. -/
def grammar : Name → Grammar
  | chat => ⟨[.help, .logFile, .thread, .fresh, .model], .rest, []⟩
  | sessions => ⟨[.help, .logFile, .refresh], .none, []⟩
  | session => ⟨[.help, .logFile], .one, []⟩
  | _ => ⟨[.help, .logFile], .none, []⟩

/-- The command that the words after a name amount to. -/
def command (name : Name) (r : Reading) : Except UsageError Command :=
  match name with
  | chat =>
    if r.has .fresh ∧ r.has .thread then .error .conflict
    else if r.plain.isEmpty then .error .missingArgument
    else .ok (.chat r.plain (r.value? .thread) (r.has .fresh) (r.value? .model))
  | sessions => .ok (.sessions (r.has .refresh))
  | session =>
    match r.plain with
    | [] => .error .missingArgument
    | id :: _ => .ok (.session id)
  | settings => .ok .settings
  | storeToken => .ok .storeToken
  | dropToken => .ok .dropToken

end Name

/-- The name of the command that tells about the others. -/
def helpWord : String :=
  "help"

/-- What the words of the whole command line may be. -/
def grammar : Grammar :=
  ⟨[.help, .version, .logFile], .none, helpWord :: Name.all.map Name.word⟩

/-- What a request for help amounts to: help about one command at most. -/
def helpAbout : List String → UsageError
  | [] => .help
  | [name] => if grammar.subcommands.contains name then .help else .unknownSubcommand
  | _ => .unknownSubcommand

/-- Reads the words after the name of the program. -/
def parse (words : List String) : Except UsageError Invocation := do
  let (outer, subcommand) ← readWords grammar {} words
  match subcommand with
  | none =>
    let outer ← outer.settle
    if outer.given.isEmpty then .error .helpForNothing else .error .missingSubcommand
  | some (word, rest) =>
    match Name.all.find? fun name => name.word = word with
    | none => .error (helpAbout rest)
    | some name =>
      let (inner, _) ← readWords name.grammar {} rest
      let inner ← inner.settle
      let command ← name.command inner
      let outer ← outer.settle
      pure ⟨command, (inner.value? .logFile).or (outer.value? .logFile)⟩

example : parse ["chat", "-nm", "big", "hi", "-t"] =
    .ok ⟨.chat ["hi", "-t"] none true (some "big"), none⟩ := by cbv
example : parse ["-l", "chat"] = .error .missingSubcommand := by cbv
example : parse ["sessions", "-r", "-r"] = .error .conflict := by cbv
example : parse ["chat", "-t", "--", "hi"] = .error .invalidValue := by cbv

end ChatGateway.CommandLine
