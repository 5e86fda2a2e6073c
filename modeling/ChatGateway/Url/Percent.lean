import ChatGateway.Text.Quoted
import ChatGateway.Text.Utf8

/-!
# Bytes of a URL

A character that cannot stand in some part of a URL is written as its bytes, each as a
percent sign and two digits.  Which characters these are depends on the part.
-/

set_option autoImplicit false

namespace ChatGateway.Url

/-- The value of a hexadecimal digit. -/
def hexValue? (c : Char) : Option Nat :=
  if '0' ≤ c ∧ c ≤ '9' then some (c.toNat - 48)
  else if 'a' ≤ c ∧ c ≤ 'f' then some (c.toNat - 87)
  else if 'A' ≤ c ∧ c ≤ 'F' then some (c.toNat - 55)
  else none

/-- A byte as a percent sign and two digits. -/
def percentByte (b : UInt8) : List Char :=
  '%' :: (Text.hexByte b).map Char.toUpper

/-- The characters with those in `special`, the controls and those beyond ASCII written
as bytes. -/
def percentEncode (special : List Char) (cs : List Char) : List Char :=
  cs.flatMap fun c =>
    if c.toNat < 0x20 ∨ 0x7E < c.toNat ∨ c ∈ special then
      (Text.Utf8.encodeChar c).flatMap percentByte
    else [c]

/-- The bytes of a text in which percent signs with two digits stand for bytes. -/
def percentDecode : List Char → List UInt8
  | '%' :: a :: b :: rest =>
    match hexValue? a, hexValue? b with
    | some x, some y => UInt8.ofNat (x * 16 + y) :: percentDecode rest
    | _, _ => 0x25 :: percentDecode (a :: b :: rest)
  | c :: rest => Text.Utf8.encodeChar c ++ percentDecode rest
  | [] => []

/-- What cannot stand in a fragment. -/
def fragmentSpecial : List Char :=
  [' ', '"', '<', '>', '\x60']

/-- What cannot stand in a path. -/
def pathSpecial : List Char :=
  '#' :: '?' :: '\x7b' :: '\x7d' :: fragmentSpecial

/-- What cannot stand in a name of a user or a password. -/
def userSpecial : List Char :=
  ['/', ':', ';', '=', '@', '[', '\\', ']', '^', '|'] ++ pathSpecial

/-- What cannot stand in a query. -/
def querySpecial : List Char :=
  [' ', '"', '#', '<', '>']

example : percentEncode pathSpecial "a é?".toList = "a%20%C3%A9%3F".toList := by decide +kernel
example : percentDecode "%41%4".toList = [0x41, 0x25, 0x34] := by decide +kernel

end ChatGateway.Url
