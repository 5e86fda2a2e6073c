import ChatGateway.Text.Shown

/-!
# Quoted text inside a message

A message that cites a text puts it between double quotes.  The quote itself, the
backslash and five controls have escapes of one letter; every other character that
is not shown as it is stands as its number in braces, in lower-case hexadecimal
digits.  The quoted form never breaks the line it stands in.
-/

set_option autoImplicit false

namespace ChatGateway.Text

/-- The lower-case hexadecimal digit of `n`, which is below sixteen. -/
def hexDigit (n : Nat) : Char :=
  if n < 10 then Char.ofNat (48 + n) else Char.ofNat (87 + n)

/-- The hexadecimal digits of `n`, most significant first, without leading zeros. -/
def hexDigits (n : Nat) : List Char :=
  (Nat.toDigits 16 n)

/-- The two hexadecimal digits of a byte. -/
def hexByte (b : UInt8) : List Char :=
  [hexDigit (b.toNat / 16), hexDigit (b.toNat % 16)]

/-- How one character is written between double quotes. -/
def quotedChar (c : Char) : List Char :=
  if c = '"' then ['\\', '"']
  else if c = '\\' then ['\\', '\\']
  else if c = '\n' then ['\\', 'n']
  else if c = '\r' then ['\\', 'r']
  else if c = '\t' then ['\\', 't']
  else if c = '\x00' then ['\\', '0']
  else if isShown c then [c]
  else ['\\', 'u', '\x7b'] ++ hexDigits c.toNat ++ ['\x7d']

/-- `s` between double quotes. -/
def quoted (s : String) : String :=
  String.ofList ('"' :: s.toList.flatMap quotedChar ++ ['"'])

example : quoted "a\"b\\\n" = "\"a\\\"b\\\\\\n\"" := by cbv
example : quoted "\x1b" = "\"\\u\x7b1b\x7d\"" := by cbv

end ChatGateway.Text
