/-!
# Endpoints of the gateway

The address of an endpoint is the base of the gateway without its trailing slashes, a
slash, and the endpoint without its leading slashes.  An identifier may stand in an
endpoint only if it is one segment of a path and keeps its spelling there.
-/

set_option autoImplicit false

namespace ChatGateway.Endpoint

/-- `cs` without the slashes at its end. -/
def dropSlashesEnd (cs : List Char) : List Char :=
  (cs.reverse.dropWhile (· = '/')).reverse

/-- The base of the gateway without trailing slashes. -/
def normalizeBase (base : String) : String :=
  String.ofList (dropSlashesEnd base.toList)

/-- The address of an endpoint. -/
def address (base endpoint : String) : String :=
  normalizeBase base ++ "/" ++ String.ofList (endpoint.toList.dropWhile (· = '/'))

/-- Whether `c` may stand in a segment. -/
def isSegmentChar (c : Char) : Bool :=
  c.isAlphanum || c = '-' || c = '_' || c = '.' || c = ':'

/-- Whether `s` can be one segment of a path. -/
def isSegment (s : String) : Bool :=
  s ≠ "" && s.toList.all isSegmentChar && s ≠ "." && s ≠ ".."

/-- The list of sessions. -/
def sessions : String :=
  "terminal/sessions"

/-- One session. -/
def session (id : String) : String :=
  "terminal/sessions/" ++ id

/-- The messages of a thread. -/
def threadMessages (id : String) : String :=
  "threads/" ++ id ++ "/messages"

/-- The replies to chat requests. -/
def completions : String :=
  "chat/completions"

example : address "https://x/v1//" "//a//b" = "https://x/v1/a//b" := by decide +kernel
example : isSegment "..." = true ∧ isSegment ".." = false ∧ isSegment "a%2Fb" = false := by
  decide +kernel

end ChatGateway.Endpoint
