import ChatGateway.Gateway.Request
import ChatGateway.Json.Printer
import ChatGateway.Wire.Session

/-!
# The client of the gateway

Reads are repeated after passing failures, as the policy says; a chat request is made
once.  The client keeps the latest list of sessions and gives it ahead of a new one,
unless a new one is insisted on.  An identifier that cannot stand in an address is
refused without a request.
-/

set_option autoImplicit false

namespace ChatGateway.Gateway

/-- The client. -/
structure Client where
  connection : Connection
  /-- The latest list of sessions. -/
  sessions : Option (List Session) := none
  /-- The requests that went out, in order. -/
  sent : List Request := []
deriving DecidableEq, Repr

namespace Client

/-- The outcome of a read that goes out as the `n`-th request. -/
def attempt {α : Type} (server : Server) (decode : String → Except Refusal α) (r : Request)
    (n : Nat) : Except Failure α := do
  let body ← (server n r).body r ""
  let text ← bodyText body
  (decode text).mapError fun refusal => .malformed refusal.message

/-- Reads from an endpoint. -/
def read {α : Type} (server : Server) (decode : String → Except Refusal α) (endpoint : String)
    (c : Client) : Except Failure α × Client :=
  match Request.make c.connection endpoint none with
  | .error refused => (.error refused.failure, c)
  | .ok r =>
    let policy := c.connection.retry
    let first := c.sent.length
    let (result, delays) :=
      retrying Failure.isRetryable policy.attempts.toNat
        (fun i => (policy.backoff i.toUInt32).toNat)
        (fun i => attempt server decode r (first + i - 1))
    (result, { c with sent := c.sent ++ List.replicate (delays.length + 1) r })

/-- The list that is given ahead of a new one, unless a `fresh` one is insisted on. -/
def known (fresh : Bool) (c : Client) : Option (List Session) :=
  if fresh then none else c.sessions

/-- Keeps a list that has come. -/
def remember (result : Except Failure (List Session)) (c : Client) : Client :=
  match result with
  | .ok list => { c with sessions := some list }
  | .error _ => c

/-- The sessions: those known already, unless `fresh` ones are insisted on, and those
that the gateway lists now. -/
def getSessions (server : Server) (fresh : Bool) (c : Client) :
    List (Except Failure (List Session)) × Client :=
  let known := (c.known fresh).toList
  let (result, c) := c.read server Session.listOfText Endpoint.sessions
  (known.map .ok ++ [result], c.remember result)

/-- The failure of an identifier that cannot stand in an address. -/
def invalidId (kind id : String) : Failure :=
  .invalid ("invalid " ++ kind ++ " id '" ++ id ++ "'")

/-- One session. -/
def getSession (server : Server) (id : String) (c : Client) : Except Failure Session × Client :=
  if Endpoint.isSegment id then c.read server Session.ofText (Endpoint.session id)
  else (.error (invalidId "session" id), c)

/-- The messages of a thread. -/
def getThread (server : Server) (id : String) (c : Client) :
    Except Failure (List ThreadMessage) × Client :=
  if Endpoint.isSegment id then
    c.read server ThreadMessage.listOfText (Endpoint.threadMessages id)
  else (.error (invalidId "thread" id), c)

/-- The items of the reply to a chat request.  `cancelled` says whether the caller has
cancelled when so many items have come and the next read is due. -/
def chat (server : Server) (cancelled : Nat → Bool) (request : ChatRequest) (c : Client) :
    List Sse.Item × Client :=
  match Request.make c.connection Endpoint.completions (some request.toJson.toText) with
  | .error refused => ([.error refused.failure], c)
  | .ok r =>
    let items := match (server c.sent.length r).body r "<no body>" with
      | .error f => [.error f]
      | .ok reads => Sse.replyItems c.connection.idleTimeout cancelled reads
    (items, { c with sent := c.sent ++ [r] })

end Client

end ChatGateway.Gateway
