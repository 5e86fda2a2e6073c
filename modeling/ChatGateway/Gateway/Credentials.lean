import ChatGateway.Url.Basic

/-!
# The credentials of an address

A user and a password that a URL names do not stay in it: they are sent in a header of their own,
in digits of six bits.
-/

set_option autoImplicit false

namespace ChatGateway

namespace Gateway

/-- The digit for six bits. -/
def digitOf (n : Nat) : Char :=
  if n < 26 then Char.ofNat ('A'.toNat + n)
  else if n < 52 then Char.ofNat ('a'.toNat + (n - 26))
  else if n < 62 then Char.ofNat ('0'.toNat + (n - 52))
  else if n = 62 then '+'
  else '/'

/-- Bytes in digits of six bits: four digits for three bytes, and equal signs in place of the
digits that are missing at the end. -/
def base64 : List UInt8 → List Char
  | [] => []
  | [a] => [digitOf (a.toNat / 4), digitOf (a.toNat % 4 * 16), '=', '=']
  | [a, b] =>
    [digitOf (a.toNat / 4), digitOf (a.toNat % 4 * 16 + b.toNat / 16), digitOf (b.toNat % 16 * 4),
      '=']
  | a :: b :: c :: rest =>
    digitOf (a.toNat / 4) :: digitOf (a.toNat % 4 * 16 + b.toNat / 16) ::
      digitOf (b.toNat % 16 * 4 + c.toNat / 64) :: digitOf (c.toNat % 64) :: base64 rest

end Gateway

namespace Url

/-- The text that a part of a URL stands for, if its bytes are text. -/
def partText? (part : String) : Option String :=
  (Text.Utf8.decode? (percentDecode part.toList)).map String.ofList

/-- The user and the password that leave a URL: none if the user is no text, and no password if
that is no text. -/
def credentials? (u : Url) : Option (String × Option String) :=
  match partText? u.user with
  | none => none
  | some user =>
    let password := u.password.bind partText?
    if user = "" ∧ password = none then none else some (user, password)

/-- The value of the header for the user and the password that a URL names, if it names any. -/
def credentialsHeader (u : Url) : Option String :=
  u.credentials?.map fun (user, password) =>
    let pair := user ++ ":" ++ password.getD ""
    "Basic " ++ String.ofList (Gateway.base64 (Text.Utf8.encode pair.toList))

example : (ofText? "http://Aladdin:open%20sesame@h/").bind credentialsHeader =
    some "Basic QWxhZGRpbjpvcGVuIHNlc2FtZQ==" := by decide +kernel
example : (ofText? "http://u:%FF@h/").bind credentialsHeader = some "Basic dTo=" := by
  decide +kernel
example : (ofText? "http://%FF:p@h/").bind credentialsHeader = none := by decide +kernel

end Url

end ChatGateway
