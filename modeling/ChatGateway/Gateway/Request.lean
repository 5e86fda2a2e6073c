import ChatGateway.Endpoint
import ChatGateway.Gateway.Credentials
import ChatGateway.Settings.Connection
import ChatGateway.Sse.Reader
import ChatGateway.Token
import ChatGateway.Url.Basic
import ChatGateway.Wire.Message

/-!
# Requests and what becomes of them

A request goes out only if its address is a URL that names a host, if the token can stand
in a header, if the scheme is one that the gateway speaks, and if the host can stand in a
request; these are looked at in this order.  The user and the password of a URL do not
stay in it but go into a header, as the token does.  A request that goes out is answered, or fails
on the way.
-/

set_option autoImplicit false

namespace ChatGateway.Gateway

/-- What a request does. -/
inductive Method
  | read
  | send
deriving DecidableEq, Repr

/-- A request. -/
structure Request where
  method : Method
  /-- The base of the gateway and the endpoint, as they are given. -/
  address : String
  url : Url
  /-- The values of the header that says who asks, in order: one for the user and the password of
  the address, and one for the token. -/
  authorization : List String
  accept : String
  contentType : Option String
  body : String
deriving DecidableEq, Repr

namespace Request

/-- Why a request is refused before it goes out. -/
inductive Refused
  /-- The address is no URL. -/
  | noUrl
  /-- The URL names no host. -/
  | noHost (url : Url)
  /-- The token cannot stand in a header. -/
  | badHeader
  /-- The scheme is none that the gateway speaks. -/
  | badScheme (url : Url)
  /-- The URL is too long for a request, or its host has a character that none carries. -/
  | unsendable (url : Url)
deriving DecidableEq, Repr

/-- The refusal as a failure. -/
def Refused.failure : Refused → Failure
  | .noUrl => .unknown "builder error"
  | .noHost url => .unknown ("builder error for url (" ++ url.toText ++ ")")
  | .badHeader => .unknown "builder error"
  | .badScheme url => .unknown ("builder error for url (" ++ url.toText ++ ")")
  | .unsendable url => .unknown ("builder error for url (" ++ url.toText ++ ")")

/-- The header for a token that may be missing, if it can be one. -/
def authorizationOf (token : Option String) : Option (Option String) :=
  match token with
  | none => some none
  | some t => (Token.header t).map some

/-- The greatest number of bytes in the URL of a request. -/
def maxUrl : Nat := 65534

/-- Whether a URL can stand in a request. -/
def isSendable (url : Url) : Bool :=
  url.toText.utf8ByteSize ≤ maxUrl &&
    (url.host.getD "").toList.all fun c => c ∉ ['"', '\x60', '\x7b', '\x7d']

/-- A request to an endpoint; `body` is what it carries, if it carries anything. -/
def make (c : Connection) (endpoint : String) (body : Option String) : Except Refused Request :=
  let address := Endpoint.address c.baseUrl endpoint
  match Url.ofText? address with
  | none => .error .noUrl
  | some url =>
    if !url.namesHost then .error (.noHost url)
    else
      match authorizationOf c.token with
      | none => .error .badHeader
      | some authorization =>
        let authorization := url.credentialsHeader.toList ++ authorization.toList
        let url := url.withoutCredentials
        if url.scheme ≠ "http" ∧ url.scheme ≠ "https" then .error (.badScheme url)
        else if !isSendable url then .error (.unsendable url)
        else
          match body with
          | none => .ok ⟨.read, address, url, authorization, "application/json", none, ""⟩
          | some body =>
            .ok ⟨.send, address, url, authorization, "text/event-stream",
              some "application/json", body⟩

/-- What is said when a request fails on the way. -/
def unsent (r : Request) : String :=
  "error sending request for url (" ++ r.url.toText ++ ")"

end Request

/-- What becomes of a request that goes out.  If the gateway leads elsewhere, this is what becomes
of it in the end: where it led is not looked at, nor are the headers of an answer. -/
inductive Exchange
  /-- There was no connection, or it was closed without an answer. -/
  | lost
  /-- No answer came within the time allowed. -/
  | late
  /-- An answer with its body, read by read. -/
  | answered (status : Nat) (body : List Sse.Read)
deriving Repr

/-- A gateway: what becomes of each request, numbered from zero. -/
abbrev Server := Nat → Request → Exchange

/-- A gateway that is never reached. -/
def unreachable : Server :=
  fun _ _ => .lost

/-- Why the body of an answer cannot be had. -/
def cutBody : String :=
  "error decoding response body"

/-- The bytes of a body. -/
def bodyBytes : List Sse.Read → Except Failure (List UInt8)
  | [] => .ok []
  | .bytes bs :: rest => (bodyBytes rest).map (bs ++ ·)
  | .failed f :: _ => .error f
  | .silent :: _ => .error (.timeout .request cutBody)

/-- The text of a body. -/
def bodyText (body : List Sse.Read) : Except Failure String :=
  (bodyBytes body).map fun bs => String.ofList (Text.Utf8.decodeLossy bs)

/-- Whether a status is a success. -/
def isSuccess (status : Nat) : Bool :=
  200 ≤ status && status < 300

/-- The body of an answer to a request, or why there is none.  `unread` is said in place
of the body of an answer that is no success when that body cannot be had. -/
def Exchange.body (r : Request) (unread : String) : Exchange → Except Failure (List Sse.Read)
  | .lost => .error (.network r.unsent)
  | .late => .error (.timeout .request r.unsent)
  | .answered status reads =>
    if isSuccess status then .ok reads
    else
      match bodyText reads with
      | .ok s => .error (.ofStatus status s)
      | .error _ => .error (.ofStatus status unread)

end ChatGateway.Gateway
