import ChatGateway.Url.Name.Basic
import ChatGateway.Url.Percent

/-!
# Hosts of a URL

A host is a name, an address of four bytes, or in brackets an address of eight pieces.
A name is written in ASCII.  A name whose last label is a number is an address,
which may be spelled with fewer than four numbers and in octal or hexadecimal digits.
-/

set_option autoImplicit false

namespace ChatGateway.Url

open Name (splitAt)

/-- The number that digits of a base denote, if all of them are digits. -/
def numberIn (base : Nat) (cs : List Char) : Option Nat :=
  cs.foldlM (fun n c =>
    match hexValue? c with
    | some d => if d < base then some (n * base + d) else none
    | none => none) 0

/-! ## Addresses of four bytes -/

/-- A number of an address: octal after a zero, hexadecimal after `0x`. -/
def addressNumber (cs : List Char) : Option Nat :=
  match cs with
  | [] => none
  | '0' :: 'x' :: rest => numberIn 16 rest
  | '0' :: 'X' :: rest => numberIn 16 rest
  | '0' :: c :: rest => numberIn 8 (c :: rest)
  | cs => numberIn 10 cs

/-- The labels of a name, without an empty one at its end. -/
def labels (name : List Char) : List (List Char) :=
  let pieces := splitAt '.' [] name
  if 1 < pieces.length ∧ pieces.getLast? = some [] then pieces.dropLast else pieces

/-- Whether a name is meant as an address. -/
def endsInNumber (name : List Char) : Bool :=
  match (labels name).getLast? with
  | none => false
  | some [] => false
  | some last => last.all Char.isDigit || (addressNumber last).isSome

/-- Numbers as the value of an address: all but the last are bytes, and the last fills
what is left. -/
def addressValue (numbers : List Nat) : Option Nat :=
  match numbers.getLast? with
  | none => none
  | some last =>
    let bytes := numbers.dropLast
    if 4 < numbers.length ∨ bytes.any (255 < ·) ∨ Nat.pow 256 (4 - bytes.length) ≤ last then none
    else some (bytes.foldl (fun v b => v * 256 + b) 0 * Nat.pow 256 (4 - bytes.length) + last)

/-- An address of four bytes as it is written. -/
def addressText (v : Nat) : String :=
  toString (v / 16777216 % 256) ++ "." ++ toString (v / 65536 % 256) ++ "." ++
    toString (v / 256 % 256) ++ "." ++ toString (v % 256)

/-! ## Addresses of eight pieces -/

/-- A piece of one to four hexadecimal digits. -/
def piece? (cs : List Char) : Option Nat :=
  if cs.isEmpty ∨ 4 < cs.length then none else numberIn 16 cs

/-- A byte in decimal digits without leading zeros. -/
def byte? (cs : List Char) : Option Nat :=
  match cs with
  | [] => none
  | '0' :: _ :: _ => none
  | cs => (numberIn 10 cs).filter (· < 256)

/-- The pieces of some groups, of which the last may be four bytes with points. -/
def groupPieces : List (List Char) → Option (List Nat)
  | [] => some []
  | [last] =>
    if last.contains '.' then
      match (splitAt '.' [] last).mapM byte? with
      | some [a, b, c, d] => some [a * 256 + b, c * 256 + d]
      | _ => none
    else (piece? last).map fun p => [p]
  | group :: rest =>
    match piece? group, groupPieces rest with
    | some p, some ps => some (p :: ps)
    | _, _ => none

/-- What stands before and after the first two colons in a row, if there are any. -/
def splitGap : List Char → Option (List Char × List Char)
  | ':' :: ':' :: rest => some ([], rest)
  | c :: rest => (splitGap rest).map fun (before, after) => (c :: before, after)
  | [] => none

/-- The pieces of a text of groups between colons. -/
def sidePieces (cs : List Char) : Option (List Nat) :=
  if cs.isEmpty then some [] else groupPieces (splitAt ':' [] cs)

/-- The eight pieces of an address. -/
def pieces? (cs : List Char) : Option (List Nat) :=
  match splitGap cs with
  | none => (sidePieces cs).filter fun ps => ps.length = 8
  | some (before, after) =>
    match sidePieces before, sidePieces after with
    | some bs, some es =>
      if before.contains '.' ∨ 7 < bs.length + es.length then none
      else some (bs ++ List.replicate (8 - bs.length - es.length) 0 ++ es)
    | _, _ => none

/-- The place and length of the longest run of zeros, the first of several. -/
def longestZeros (ps : List Nat) : Nat × Nat :=
  (List.range ps.length).foldl (fun best i =>
    let run := ((ps.drop i).takeWhile (· = 0)).length
    if best.2 < run then (i, run) else best) (0, 0)

/-- Pieces between colons. -/
def joinPieces (ps : List Nat) : String :=
  ":".intercalate (ps.map fun p => String.ofList (Text.hexDigits p))

/-- Eight pieces as they are written; the longest run of zeros is left out if it is
longer than one. -/
def piecesText (ps : List Nat) : String :=
  let (start, run) := longestZeros ps
  if run < 2 then joinPieces ps
  else joinPieces (ps.take start) ++ "::" ++ joinPieces (ps.drop (start + run))

/-! ## Hosts -/

/-- The host in brackets, if the text is one. -/
def bracketed (cs : List Char) : Option String :=
  if cs.getLast? = some ']' then (pieces? cs.dropLast).map fun ps => "[" ++ piecesText ps ++ "]"
  else none

/-- The host of a scheme whose hosts are names or addresses. -/
def hostOf (cs : List Char) : Option String :=
  match cs with
  | '[' :: rest => bracketed rest
  | cs =>
    match (Text.Utf8.decode? (percentDecode cs)).bind Name.normal? with
    | none => none
    | some [] => none
    | some name =>
      if endsInNumber name then
        (((labels name).mapM addressNumber).bind addressValue).map addressText
      else some (String.ofList name)

/-- What can stand in no host that is kept as it is. -/
def opaqueForbidden : List Char :=
  [' ', '#', '/', ':', '<', '>', '?', '@', '[', '\\', ']', '^', '|', '\x00']

/-- The host of any other scheme, which is kept as it is. -/
def opaqueHostOf (cs : List Char) : Option String :=
  match cs with
  | '[' :: rest => bracketed rest
  | cs =>
    if cs.any opaqueForbidden.contains then none else some (String.ofList (percentEncode [] cs))

example : hostOf "EXAMPLE.com".toList = some "example.com" := by decide +kernel
example : hostOf "0x7f.1".toList = some "127.0.0.1" := by decide +kernel
example : hostOf "1.2.3.256".toList = none ∧ hostOf "a b".toList = none := by decide +kernel
example : hostOf "[0:0:1::ffff]".toList = some "[0:0:1::ffff]" := by decide +kernel
example : hostOf "[::1.2.3.4]".toList = some "[::102:304]" := by decide +kernel

end ChatGateway.Url
