import ChatGateway.Decimal.Reader

/-!
# Levels of log events

An event is the graver the lower its level is.  A level has a name and a number.
-/

set_option autoImplicit false

namespace ChatGateway

/-- The least grave event that a directive lets pass. -/
inductive LogLevel
  | off
  | error
  | warn
  | info
  | debug
  | trace
deriving DecidableEq, Repr

namespace LogLevel

/-- All levels by their number. -/
def all : List LogLevel :=
  [off, error, warn, info, debug, trace]

/-- The name of a level. -/
def name : LogLevel → String
  | off => "off"
  | error => "error"
  | warn => "warn"
  | info => "info"
  | debug => "debug"
  | trace => "trace"

/-- The level of that number or, in letters of either case, of that name. -/
def ofText? (s : String) : Option LogLevel :=
  match (Decimal.natural? s.toList).bind fun n => all[n]? with
  | some l => some l
  | none => all.find? fun l => l.name = String.ofList (s.toList.map Char.toLower)

example : ofText? "WARN" = some warn ∧ ofText? "+4" = some debug := by decide +kernel
example : ofText? "6" = none := by decide +kernel

end LogLevel

end ChatGateway
