import ChatGateway.Retry
import ChatGateway.Settings.File
import ChatGateway.Toml.Printer

/-!
# Settings

What the user has set: the gateway, the model, timeouts and the policy for repeated
reads.  Keys that are not known are passed over.  A table of fixed fields may also be
written as a list of its values in order.
-/

set_option autoImplicit false

namespace ChatGateway

/-- A number in a file that is less than `bound`. -/
def Toml.Node.word? (bound : Nat) : Toml.Node → Option Nat
  | .integer n => if 0 ≤ n ∧ n < bound then some n.toNat else none
  | _ => none

/-- A text in a file. -/
def Toml.Node.text? : Toml.Node → Option String
  | .text s => some s
  | _ => none

/-- The value called `key` as `decode` understands it, `none` inside if there is none. -/
def Toml.Members.optional {α : Type} (decode : Toml.Node → Option α) (key : String)
    (ms : Toml.Members) : Option (Option α) :=
  match ms.find? key with
  | none => some none
  | some v => (decode v).map some

namespace RetryPolicy

/-- The policy of three values in order. -/
def ofValues (attempts initial longest : Toml.Node) : Option RetryPolicy := do
  let a ← attempts.word? UInt32.size
  let i ← initial.word? UInt64.size
  let l ← longest.word? UInt64.size
  some ⟨a.toUInt32, i.toUInt64, l.toUInt64⟩

/-- The policy that a value in a file holds. -/
def ofNode : Toml.Node → Option RetryPolicy
  | .table _ ms => do
    let a ← Toml.Members.find? "max_attempts" ms
    let i ← Toml.Members.find? "initial_backoff_ms" ms
    let l ← Toml.Members.find? "max_backoff_ms" ms
    ofValues a i l
  | .list (a :: i :: l :: _) => ofValues a i l
  | _ => none

/-- The policy as pairs of a file. -/
def toPairs (p : RetryPolicy) : List (String × Toml.Plain) :=
  [("max_attempts", .number p.maxAttempts.toNat),
    ("initial_backoff_ms", .number p.initialBackoff.toNat),
    ("max_backoff_ms", .number p.maxBackoff.toNat)]

end RetryPolicy

/-- What the user has set; times are in seconds. -/
structure Settings where
  baseUrl : Option String := none
  model : Option String := none
  connectTimeout : Option Nat := none
  requestTimeout : Option Nat := none
  /-- The longest silence in a reply. -/
  idleTimeout : Option Nat := none
  retry : RetryPolicy := .standard
deriving DecidableEq, Repr

namespace Settings

/-- The settings in the tables of a file. -/
def ofMembers (ms : Toml.Members) : Option Settings := do
  let baseUrl ← ms.optional Toml.Node.text? "base_url"
  let model ← ms.optional Toml.Node.text? "default_model"
  let connect ← ms.optional (Toml.Node.word? UInt64.size) "connect_timeout_secs"
  let request ← ms.optional (Toml.Node.word? UInt64.size) "request_timeout_secs"
  let idle ← ms.optional (Toml.Node.word? UInt64.size) "stream_idle_timeout_secs"
  let retry ← ms.optional RetryPolicy.ofNode "retry"
  some ⟨baseUrl, model, connect, request, idle, retry.getD .standard⟩

/-- The settings in a file. -/
def load (f : File) : Except FileFailure Settings :=
  f.load ofMembers {}

/-- A key with its value, if it has one. -/
def pair (key : String) (v : Option Toml.Plain) : List (String × Toml.Plain) :=
  (v.map fun v => (key, v)).toList

/-- The settings as the text of a file. -/
def toText (s : Settings) : String :=
  Toml.fileText
    (pair "base_url" (s.baseUrl.map .text) ++ pair "default_model" (s.model.map .text) ++
      pair "connect_timeout_secs" (s.connectTimeout.map .number) ++
      pair "request_timeout_secs" (s.requestTimeout.map .number) ++
      pair "stream_idle_timeout_secs" (s.idleTimeout.map .number))
    [("retry", s.retry.toPairs)]

/-- The outcome of saving the settings, and the file after it. -/
def save (refusal : Option DiskFault) (s : Settings) (f : File) : Except FileFailure Unit × File :=
  f.replace refusal s.toText

end Settings

end ChatGateway
