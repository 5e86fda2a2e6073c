import ChatGateway.Json.Reader
import ChatGateway.Text.Blank

/-!
# Failures of gateway calls

A failure keeps the message of what went wrong.  Its kind decides whether the call is
worth repeating, what the user can do about it and how grave it is.  The summary of an
error body finds the message inside an answer that is no success.
-/

set_option autoImplicit false

namespace ChatGateway

/-- Which part of a call ran out of time. -/
inductive TimeoutPhase
  | connection
  | request
  | socket
  | streaming
deriving DecidableEq, Repr

/-- The name of a part of a call. -/
def TimeoutPhase.name : TimeoutPhase → String
  | .connection => "connection"
  | .request => "request"
  | .socket => "socket"
  | .streaming => "streaming"

/-- What the user can do about a failure. -/
inductive UserAction
  | retry
  | reauthenticate
  | contactSupport
  | dismiss
deriving DecidableEq, Repr

/-- How grave a failure is. -/
inductive Severity
  | info
  | warning
  | error
  | critical
deriving DecidableEq, Repr

/-- Why a call of the gateway failed. -/
inductive Failure
  /-- The request never reached the server. -/
  | network (message : String)
  /-- The answer's status is no success. -/
  | http (status : Nat) (message : String)
  /-- A body could not be decoded. -/
  | malformed (message : String)
  /-- The request was refused before it was sent. -/
  | invalid (message : String)
  | timeout (phase : TimeoutPhase) (message : String)
  /-- The gateway rejected the credentials. -/
  | unauthorized (message : String)
  | unknown (message : String)
  /-- The caller cancelled the call. -/
  | cancelled
deriving DecidableEq, Repr

/-- The message inside the body of an answer that is no success: the message of its
error, its error, or its own message, or else the body itself.  Runs of blanks become
single spaces. -/
def summarize (body : String) : String :=
  let trimmed := Text.trim body
  if trimmed = "" then "<empty response>"
  else
    let found : Option String :=
      match Json.ofText trimmed with
      | .error _ => none
      | .ok v =>
        (((v.member? "error").bind (Json.member? "message")).bind Json.text?) <|>
        ((v.member? "error").bind Json.text?) <|>
        ((v.member? "message").bind Json.text?)
    Text.collapse (found.getD trimmed)

namespace Failure

/-- The failure that an answer with this status and body amounts to. -/
def ofStatus (status : Nat) (body : String) : Failure :=
  if status = 401 ∨ status = 403 then .unauthorized (summarize body)
  else .http status (summarize body)

/-- Why nothing came of a call that ended without an answer. -/
def emptyResponse : Failure :=
  .unknown "Empty response"

/-- Whether the same call may succeed when it is made again. -/
def isRetryable : Failure → Bool
  | .network _ => true
  | .timeout _ _ => true
  | .http status _ => status = 408 || status = 429 || (500 ≤ status && status < 600)
  | _ => false

/-- What the user can do about the failure. -/
def userAction (f : Failure) : UserAction :=
  match f with
  | .unauthorized _ => .reauthenticate
  | .malformed _ => .contactSupport
  | .invalid _ => .dismiss
  | .cancelled => .dismiss
  | .unknown _ => .contactSupport
  | f => if f.isRetryable then .retry else .dismiss

/-- How grave the failure is. -/
def severity : Failure → Severity
  | .cancelled => .info
  | .invalid _ => .warning
  | .network _ => .warning
  | .timeout _ _ => .warning
  | .http _ _ => .error
  | .unknown _ => .error
  | .unauthorized _ => .critical
  | .malformed _ => .critical

/-- Whether the caller cancelled the call. -/
def isCancelled (f : Failure) : Bool :=
  f = .cancelled

/-- The failure in words. -/
def describe : Failure → String
  | .network message => "Network error: " ++ message
  | .http status message => "HTTP " ++ toString status ++ ": " ++ message
  | .malformed message => "Malformed response: " ++ message
  | .invalid message => message
  | .timeout phase message => "Timed out (" ++ phase.name ++ "): " ++ message
  | .unauthorized message => "Authentication failed: " ++ message
  | .unknown message => message
  | .cancelled => "Request cancelled"

end Failure

end ChatGateway
