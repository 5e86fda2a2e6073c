import ChatGateway.Text.Blank
import ChatGateway.Text.Utf8

/-!
# The token of the gateway

A token may be pasted with blanks around it and with the scheme in front; both are
dropped.  It is kept in a store of the system, whose failures are either passing or
permanent, and sent in a header, where controls cannot stand.
-/

set_option autoImplicit false

namespace ChatGateway

namespace Token

/-- The token in a pasted text, if there is any. -/
def normalize (input : String) : Option String :=
  let token := Text.trimChars input.toList
  let token := Text.trimChars ((Text.dropPrefix? "Bearer ".toList token).getD token)
  if token.isEmpty then none else some (String.ofList token)

/-- Whether a byte may stand in the value of a header. -/
def isHeaderByte (b : UInt8) : Bool :=
  (32 ≤ b && b ≠ 127) || b = 9

/-- The value of the header that carries a token, if it can be one. -/
def header (token : String) : Option String :=
  let value := "Bearer " ++ token
  if (Text.Utf8.encode value.toList).all isHeaderByte then some value else none

/-- Why the store of the system failed. -/
inductive StoreFailure
  | platform (reason : String)
  | noAccess (reason : String)
  | noEntry
  | notText
  | tooLong (field : String) (limit : Nat)
  | invalid (field reason : String)
deriving DecidableEq, Repr

namespace StoreFailure

/-- Whether the store may work again later. -/
def isRecoverable : StoreFailure → Bool
  | .platform _ => true
  | .noAccess _ => true
  | _ => false

/-- The failure in words. -/
def describe (f : StoreFailure) : String :=
  "Keyring error: " ++
    match f with
    | .platform reason => "Platform secure storage failure: " ++ reason
    | .noAccess reason => "Couldn't access platform secure storage: " ++ reason
    | .noEntry => "No matching entry found in secure storage"
    | .notText => "Data is not UTF-8 encoded"
    | .tooLong field limit =>
      "Attribute '" ++ field ++ "' is longer than platform limit of " ++
        toString limit ++ " chars"
    | .invalid field reason =>
      "Attribute " ++ field ++ " is invalid: " ++ reason

end StoreFailure

/-- A store of one token. -/
structure Store where
  token : Option String := none
deriving DecidableEq, Repr

/-- The store without its token, and whether it had one. -/
def Store.clear (s : Store) : Bool × Store :=
  (s.token.isSome, ⟨none⟩)

example : normalize " Bearer  Bearer x\n" = some "Bearer x" := by decide +kernel
example : normalize " Bearer " = some "Bearer" := by decide +kernel
example : header "a\nb" = none := by decide +kernel

end Token

end ChatGateway
