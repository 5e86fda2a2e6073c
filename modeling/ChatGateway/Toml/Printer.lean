import ChatGateway.Text.Quoted

/-!
# Writing TOML

A file is written as pairs of keys and values, followed by tables of such pairs, each
after an empty line.  A text is written in the plainest quotes that can hold it: double
quotes if nothing in it has to be escaped, else single quotes, else the quotes of several
lines, and escapes only if none of these will do.
-/

set_option autoImplicit false

namespace ChatGateway.Toml

/-- A value as it is written. -/
inductive Plain
  | text (s : String)
  | number (n : Nat)
deriving DecidableEq, Repr

/-- The quotes around a text. -/
inductive Quotes
  /-- Double quotes. -/
  | basic
  /-- Single quotes. -/
  | literal
  /-- Three double quotes. -/
  | longBasic
  /-- Three single quotes. -/
  | longLiteral
deriving DecidableEq, Repr

/-- The length of the longest run of `q` in a text, of which `run` have just been seen
and `best` is the longest so far. -/
def longestRunFrom (q : Char) (run best : Nat) : List Char → Nat
  | [] => max run best
  | c :: cs =>
    if c = q then longestRunFrom q (run + 1) best cs else longestRunFrom q 0 (max run best) cs

/-- The length of the longest run of `q` in a text. -/
def longestRun (q : Char) (cs : List Char) : Nat :=
  longestRunFrom q 0 0 cs

/-- Whether `c` is a control that is always escaped. -/
def needsEscape (c : Char) : Bool :=
  (c.toNat ≤ 0x1F && c ≠ '\t' && c ≠ '\n') || c.toNat = 0x7F

/-- The quotes that a text is written in. -/
def Quotes.of (cs : List Char) : Quotes :=
  let controls := cs.any needsEscape
  let lines := cs.contains '\n'
  let backslash := cs.contains '\\'
  let doubles := longestRun '"' cs
  let singles := longestRun '\'' cs
  if !controls && !backslash && !lines && doubles = 0 then .basic
  else if !controls && !lines && singles = 0 then .literal
  else if !controls && !backslash && doubles ≤ 2 then .longBasic
  else if !controls && singles ≤ 2 then .longLiteral
  else if lines then .longBasic
  else .basic

/-- The characters of a text in double quotes.  The first argument is the number of
double quotes that may follow one another, the second how many just have. -/
def escaped (allowed run : Nat) : List Char → List Char
  | [] => []
  | c :: cs =>
    if c = '"' then
      if run < allowed then '"' :: escaped allowed (run + 1) cs
      else '\\' :: '"' :: escaped allowed 0 cs
    else if c = '\n' ∧ 0 < allowed then '\n' :: escaped allowed 0 cs
    else
      (match c with
        | '\x08' => ['\\', 'b']
        | '\t' => ['\\', 't']
        | '\n' => ['\\', 'n']
        | '\x0c' => ['\\', 'f']
        | '\x0d' => ['\\', 'r']
        | '\\' => ['\\', '\\']
        | c =>
          if needsEscape c then
            ['\\', 'u', '0', '0'] ++ (Text.hexByte c.toNat.toUInt8).map Char.toUpper
          else [c])
        ++ escaped allowed 0 cs

/-- A text with its quotes. -/
def quoted (s : String) : String :=
  let cs := s.toList
  let opening := if cs.contains '\n' then "\n" else ""
  match Quotes.of cs with
  | .basic => "\"" ++ String.ofList (escaped 0 0 cs) ++ "\""
  | .literal => "'" ++ s ++ "'"
  | .longBasic => "\"\"\"" ++ opening ++ String.ofList (escaped 2 0 cs) ++ "\"\"\""
  | .longLiteral => "'''" ++ opening ++ s ++ "'''"

/-- A value. -/
def Plain.toText : Plain → String
  | .text s => quoted s
  | .number n => toString n

/-- A key and a value on a line. -/
def pairLine (pair : String × Plain) : String :=
  pair.1 ++ " = " ++ pair.2.toText ++ "\n"

/-- The lines of some pairs. -/
def pairLines (pairs : List (String × Plain)) : String :=
  String.join (pairs.map pairLine)

/-- A table under its header, after what is `before` it in the file. -/
def tableAfter (before : String) (table : String × List (String × Plain)) : String :=
  before ++ (if before = "" then "" else "\n") ++ "[" ++ table.1 ++ "]\n" ++ pairLines table.2

/-- A file of pairs and tables. -/
def fileText (pairs : List (String × Plain)) (tables : List (String × List (String × Plain))) :
    String :=
  tables.foldl tableAfter (pairLines pairs)

example : quoted "it's" = "\"it's\"" ∧ quoted "a\\b" = "'a\\b'" := by decide +kernel
example : quoted "a\nb\"\"\"" = "'''\na\nb\"\"\"'''" := by decide +kernel
example : quoted "tab\there" = "\"tab\\there\"" ∧ quoted "\x07'" = "\"\\u0007'\"" := by
  decide +kernel

end ChatGateway.Toml
