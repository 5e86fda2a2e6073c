import ChatGateway.Endpoint
import ChatGateway.Settings.Basic
import ChatGateway.Text.Blank

/-!
# The effective settings

How the gateway is reached once everything that is not set has its standard value, and
once the environment and the arguments have been heard.
-/

set_option autoImplicit false

namespace ChatGateway

/-- What the environment of the program says about the gateway. -/
structure Surroundings where
  baseUrl : Option String := none
  token : Option String := none
deriving DecidableEq, Repr

/-- How the gateway is reached; times are in seconds. -/
structure Connection where
  baseUrl : String
  token : Option String
  model : String
  connectTimeout : Nat
  requestTimeout : Nat
  /-- The longest silence in a reply. -/
  idleTimeout : Nat
  retry : RetryPolicy
deriving DecidableEq, Repr

namespace Connection

/-- The gateway when none is set. -/
def standardUrl : String :=
  "http://localhost:8080/api"

/-- The model when none is set. -/
def standardModel : String :=
  "gpt-4o-mini"

/-- A timeout that is set, or the standard one; zero counts as one second, because it
would end every wait before it starts. -/
def timeout (set : Option Nat) (standard : Nat) : Nat :=
  max (set.getD standard) 1

/-- The connection by the settings alone. -/
def ofSettings (s : Settings) : Connection where
  baseUrl := Endpoint.normalizeBase (s.baseUrl.getD standardUrl)
  token := none
  model := s.model.getD standardModel
  connectTimeout := timeout s.connectTimeout 10
  requestTimeout := timeout s.requestTimeout 30
  idleTimeout := timeout s.idleTimeout 60
  retry := s.retry

/-- A text that is given and not blank. -/
def given (s : Option String) : Option String :=
  s.filter fun s => !Text.isBlankText s

/-- The connection after the environment was heard. -/
def within (c : Connection) (e : Surroundings) : Connection :=
  { c with
    baseUrl := ((given e.baseUrl).map fun u => Endpoint.normalizeBase (Text.trim u)).getD c.baseUrl
    token := ((given e.token).map Text.trim).or c.token }

/-- The connection with a model that was asked for. -/
def withModel (c : Connection) (model : Option String) : Connection :=
  { c with model := (given model).getD c.model }

/-- The connection with a stored token, unless it has one. -/
def withStoredToken (c : Connection) (token : Option String) : Connection :=
  { c with token := c.token.or token }

/-- The lines that tell the user how the gateway is reached. -/
def report (c : Connection) : String :=
  "Current configuration:\n" ++
  "  base-url: " ++ c.baseUrl ++ "\n" ++
  "  model: " ++ c.model ++ "\n" ++
  "  api-token: " ++ (if c.token.isSome then "(set)" else "(unset)") ++ "\n" ++
  "  connect-timeout: " ++ toString c.connectTimeout ++ "s\n" ++
  "  request-timeout: " ++ toString c.requestTimeout ++ "s\n" ++
  "  stream-idle-timeout: " ++ toString c.idleTimeout ++ "s\n" ++
  "  retry: " ++ toString c.retry.attempts.toNat ++ " attempts, " ++
    toString c.retry.initialBackoff.toNat ++ "ms initial backoff (max " ++
    toString c.retry.maxBackoff.toNat ++ "ms)\n"

end Connection

end ChatGateway
