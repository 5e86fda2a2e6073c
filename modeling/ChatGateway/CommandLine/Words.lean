/-!
# Words of a command line

The words after the name of the program are options, flags, plain words and the name of
a subcommand.  An option takes the rest of its word or the next word as its value; short
flags may share one word.  After `--` all words are plain.  An option that still waits
for its value is settled when the next option comes or the words end.
-/

set_option autoImplicit false

namespace ChatGateway.CommandLine

/-- Why a command line is not carried out. -/
inductive UsageError
  /-- The user asked for help. -/
  | help
  /-- The user asked for the version. -/
  | version
  /-- Nothing was asked for at all. -/
  | helpForNothing
  | missingSubcommand
  | unknownSubcommand
  | unknownArgument
  /-- A flag was given a value. -/
  | tooManyValues
  /-- An option has no value, or one that it cannot have. -/
  | invalidValue
  /-- An option stands twice, or with one that excludes it. -/
  | conflict
  | missingArgument
deriving DecidableEq, Repr

/-- The code that the program ends with. -/
def UsageError.exitCode : UsageError → Nat
  | .help => 0
  | .version => 0
  | _ => 2

/-- What can be given by an option or a flag. -/
inductive Setting
  | help
  | version
  | logFile
  | thread
  | fresh
  | model
  | refresh
deriving DecidableEq, Repr

namespace Setting

/-- The long name. -/
def long : Setting → String
  | help => "help"
  | version => "version"
  | logFile => "log-file"
  | thread => "thread"
  | fresh => "new"
  | model => "model"
  | refresh => "refresh"

/-- The letter. -/
def letter : Setting → Char
  | help => 'h'
  | version => 'V'
  | logFile => 'l'
  | thread => 't'
  | fresh => 'n'
  | model => 'm'
  | refresh => 'r'

/-- Whether a value belongs to it. -/
def takesValue : Setting → Bool
  | logFile => true
  | thread => true
  | model => true
  | _ => false

/-- Whether it can have the value. -/
def allows : Setting → String → Bool
  | logFile, v => v ≠ ""
  | _, _ => true

end Setting

/-- How many plain words a command takes. -/
inductive Room
  | none
  | one
  /-- All words from the first plain one on, whatever they look like. -/
  | rest
deriving DecidableEq, Repr

/-- What the words of a command may be. -/
structure Grammar where
  settings : List Setting
  room : Room
  subcommands : List String
deriving Repr

/-- What has been read of a command. -/
structure Reading where
  given : List (Setting × String) := []
  plain : List String := []
  /-- The option that was read last and is not settled yet, with its value if it has
  come already. -/
  pending : Option (Setting × Option String) := none
  /-- Whether all words that follow are plain. -/
  closed : Bool := false
deriving Repr

namespace Reading

/-- The value of a setting. -/
def value? (r : Reading) (s : Setting) : Option String :=
  (r.given.find? fun g => g.1 = s).map Prod.snd

/-- Whether a flag was given. -/
def has (r : Reading) (s : Setting) : Bool :=
  (r.value? s).isSome

/-- Whether the next word is the value of an option. -/
def isWaiting (r : Reading) : Bool :=
  match r.pending with
  | some (_, none) => true
  | _ => false

/-- Takes a setting in. -/
def give (r : Reading) (s : Setting) (v : String) : Except UsageError Reading :=
  match s with
  | .help => .error .help
  | .version => .error .version
  | s =>
    if r.has s then .error .conflict
    else if s.allows v then .ok { r with given := r.given ++ [(s, v)] }
    else .error .invalidValue

/-- Settles the option that was read last. -/
def settle (r : Reading) : Except UsageError Reading :=
  match r.pending with
  | none => .ok r
  | some (_, none) => .error .invalidValue
  | some (s, some v) => { r with pending := none }.give s v

/-- Settles what is pending and takes a setting in. -/
def set (r : Reading) (s : Setting) (v : String) : Except UsageError Reading := do
  (← r.settle).give s v

/-- An option that waits for its value. -/
def await (r : Reading) (s : Setting) : Except UsageError Reading := do
  pure { (← r.settle) with pending := some (s, none) }

/-- Takes in a word that starts with two dashes, without these. -/
def takeLong (g : Grammar) (r : Reading) (word : List Char) : Except UsageError Reading :=
  let name := String.ofList (word.takeWhile (· ≠ '='))
  let attached := match word.dropWhile (· ≠ '=') with
    | [] => none
    | _ :: v => some (String.ofList v)
  match g.settings.find? fun s => s.long = name, attached with
  | none, _ => .error .unknownArgument
  | some s, none => if s.takesValue then r.await s else r.set s ""
  | some s, some v => if s.takesValue then r.set s v else .error .tooManyValues

/-- Takes in the letters of a word that starts with one dash. -/
def takeLetters (g : Grammar) (r : Reading) : List Char → Except UsageError Reading
  | [] => .ok r
  | c :: cs =>
    match g.settings.find? fun s => s.letter = c with
    | none => .error .unknownArgument
    | some s =>
      if s.takesValue then
        match cs with
        | [] => r.await s
        | '=' :: v => r.set s (String.ofList v)
        | v => r.set s (String.ofList v)
      else
        match r.set s "" with
        | .error e => .error e
        | .ok r => takeLetters g r cs

/-- Takes in a plain word. -/
def takePlain (g : Grammar) (r : Reading) (word : String) : Except UsageError Reading :=
  let add : Except UsageError Reading := do
    let r ← r.settle
    pure { r with plain := r.plain ++ [word], closed := r.closed || g.room = .rest }
  let isName := g.subcommands.contains word
  match g.room with
  | .rest => add
  | .one => if r.plain.isEmpty then add else .error .unknownArgument
  | .none =>
    if g.subcommands.isEmpty ∨ (r.closed ∧ isName) then .error .unknownArgument
    else .error .unknownSubcommand

/-- Takes in a word that names no subcommand. -/
def take (g : Grammar) (r : Reading) (word : String) : Except UsageError Reading :=
  if r.closed then r.takePlain g word
  else
    match word.toList with
    | ['-', '-'] => .ok { r with closed := true }
    | '-' :: '-' :: name => r.takeLong g name
    | '-' :: c :: cs => r.takeLetters g (c :: cs)
    | _ =>
      match r.pending with
      | some (s, none) => .ok { r with pending := some (s, some word) }
      | _ => r.takePlain g word

end Reading

/-- Reads the words of a command, up to the name of a subcommand; gives that name and
the words after it. -/
def readWords (g : Grammar) : Reading → List String →
    Except UsageError (Reading × Option (String × List String))
  | r, [] => .ok (r, none)
  | r, word :: words =>
    if !r.closed ∧ !r.isWaiting ∧ g.subcommands.contains word then .ok (r, some (word, words))
    else
      match r.take g word with
      | .error e => .error e
      | .ok r => readWords g r words

end ChatGateway.CommandLine
