import ChatGateway.Toml.Scalar

/-!
# Reading TOML

A file is read line by line into statements: headers, and keys with their values.  The
statements are then carried out on the tree.  Why a file is refused is not kept.
-/

set_option autoImplicit false

namespace ChatGateway.Toml

/-- A reader of something at the front of a text, with what is left after it. -/
abbrev Taker (α : Type) := List Char → Option (α × List Char)

/-- `cs` without the spaces and tabs at its front. -/
def skipBlank : List Char → List Char
  | [] => []
  | c :: cs => if c = ' ' ∨ c = '\t' then skipBlank cs else c :: cs

/-- What follows the end of a line at the front of `cs`. -/
def takeNewline : List Char → Option (List Char)
  | '\n' :: rest => some rest
  | '\r' :: '\n' :: rest => some rest
  | _ => none

/-- Whether `c` is a control that may stand in no text and no comment. -/
def isControl (c : Char) : Bool :=
  (c.toNat < 0x20 && c ≠ '\t') || c.toNat = 0x7F

/-- What follows a comment, if there is one. -/
def skipComment : List Char → Option (List Char)
  | '#' :: rest =>
    let after := rest.dropWhile fun c => !isControl c
    match after with
    | [] => some []
    | after => (takeNewline after).map fun _ => after
  | cs => some cs

/-- Blanks, ends of lines and comments; the first argument bounds their number. -/
def skipLines : Nat → List Char → Option (List Char)
  | 0, cs => some cs
  | fuel + 1, cs =>
    match skipComment (skipBlank cs) with
    | none => none
    | some rest =>
      match takeNewline rest with
      | some rest => skipLines fuel rest
      | none => some rest

/-! ## Texts -/

/-- The number that exactly `n` hexadecimal digits denote. -/
def takeHex (n : Nat) (cs : List Char) : Option (Nat × List Char) :=
  let ds := cs.take n
  if ds.length = n ∧ ds.all fun c => digitValue c < 16 then
    some (ds.foldl (fun v c => v * 16 + digitValue c) 0, cs.drop n)
  else none

/-- The character of an escape by number of `n` digits. -/
def takeScalar (n : Nat) (cs : List Char) : Option (Char × List Char) :=
  match takeHex n cs with
  | none => none
  | some (v, rest) =>
    if v < 0xD800 ∨ (0xDFFF < v ∧ v < 0x110000) then some (Char.ofNat v, rest) else none

/-- The character of an escape, after its backslash. -/
def takeEscape : Taker Char
  | 'b' :: rest => some ('\x08', rest)
  | 't' :: rest => some ('\t', rest)
  | 'n' :: rest => some ('\n', rest)
  | 'f' :: rest => some ('\x0c', rest)
  | 'r' :: rest => some ('\r', rest)
  | 'e' :: rest => some ('\x1b', rest)
  | '"' :: rest => some ('"', rest)
  | '\\' :: rest => some ('\\', rest)
  | 'x' :: rest => takeScalar 2 rest
  | 'u' :: rest => takeScalar 4 rest
  | 'U' :: rest => takeScalar 8 rest
  | _ => none

/-- A text in double quotes, after the first; the first argument bounds its length and
the second holds what has been read, last character first. -/
def takeBasic : Nat → List Char → Taker (List Char)
  | 0, _, _ => none
  | _ + 1, _, [] => none
  | _ + 1, done, '"' :: rest => some (done.reverse, rest)
  | fuel + 1, done, '\\' :: rest =>
    match takeEscape rest with
    | none => none
    | some (c, rest) => takeBasic fuel (c :: done) rest
  | fuel + 1, done, c :: rest =>
    if isControl c then none else takeBasic fuel (c :: done) rest

/-- A text in single quotes, after the first. -/
def takeLiteral (cs : List Char) : Option (List Char × List Char) :=
  let body := cs.takeWhile fun c => c ≠ '\'' && !isControl c
  match cs.dropWhile fun c => c ≠ '\'' && !isControl c with
  | '\'' :: rest => some (body, rest)
  | _ => none

/-- `cs` without the blanks and ends of lines at its front, as they may follow a
backslash at the end of a line. -/
def skipWhite : List Char → List Char
  | [] => []
  | '\r' :: '\n' :: cs => skipWhite cs
  | c :: cs => if c = ' ' ∨ c = '\t' ∨ c = '\n' then skipWhite cs else c :: cs

/-- The end of a text of several lines at the front of `cs`, which starts with a quote:
the quotes that still belong to the text and what follows it.  `none` inside means that
the text goes on after those quotes. -/
def takeClosing (quote : Char) (cs : List Char) : Option (List Char × Bool × List Char) :=
  let quotes := cs.takeWhile (· = quote)
  let rest := cs.dropWhile (· = quote)
  if quotes.length < 3 then some (quotes, false, rest)
  else if quotes.length ≤ 5 then some (quotes.drop 3, true, rest)
  else none

/-- A text of several lines, after the opening quotes; `escapes` says whether the
backslash is special in it.  An end of a line stands for itself, a carriage return
included. -/
def takeLong (quote : Char) (escapes : Bool) : Nat → List Char → Taker (List Char)
  | 0, _, _ => none
  | _ + 1, _, [] => none
  | fuel + 1, done, c :: rest =>
    if c = quote then
      match takeClosing quote (c :: rest) with
      | none => none
      | some (quotes, true, rest) => some (done.reverse ++ quotes, rest)
      | some (quotes, false, rest) => takeLong quote escapes fuel (quotes ++ done) rest
    else if escapes ∧ c = '\\' then
      match takeNewline (skipBlank rest) with
      | some rest => takeLong quote escapes fuel done (skipWhite rest)
      | none =>
        match takeEscape rest with
        | none => none
        | some (e, rest) => takeLong quote escapes fuel (e :: done) rest
    else
      match takeNewline (c :: rest) with
      | some after =>
        takeLong quote escapes fuel (if c = '\r' then '\n' :: c :: done else c :: done) after
      | none => if isControl c then none else takeLong quote escapes fuel (c :: done) rest

/-- `cs` without the end of a line at its front. -/
def dropNewline (cs : List Char) : List Char :=
  (takeNewline cs).getD cs

/-- A text value. -/
def takeText : Taker (List Char)
  | '"' :: '"' :: '"' :: rest => takeLong '"' true (rest.length + 1) [] (dropNewline rest)
  | '\'' :: '\'' :: '\'' :: rest => takeLong '\'' false (rest.length + 1) [] (dropNewline rest)
  | '"' :: rest => takeBasic (rest.length + 1) [] rest
  | '\'' :: rest => takeLiteral rest
  | _ => none

/-! ## Keys -/

/-- Whether `c` can stand in a key without quotes. -/
def isKeyChar (c : Char) : Bool :=
  c.isAlphanum || c = '_' || c = '-'

/-- A key without dots. -/
def takeKey : Taker String := fun cs =>
  match cs with
  | '"' :: rest => (takeBasic (rest.length + 1) [] rest).map fun (k, r) => (String.ofList k, r)
  | '\'' :: rest => (takeLiteral rest).map fun (k, r) => (String.ofList k, r)
  | cs =>
    let key := cs.takeWhile isKeyChar
    if key.isEmpty then none else some (String.ofList key, cs.dropWhile isKeyChar)

/-- How deep lists and tables in a line may nest, and how many keys a path may have. -/
def maxDepth : Nat :=
  80

/-- Keys with dots between them, at most so many. -/
def takePath : Nat → Taker (List String)
  | 0, _ => none
  | fuel + 1, cs =>
    match takeKey (skipBlank cs) with
    | none => none
    | some (key, rest) =>
      match skipBlank rest with
      | '.' :: rest => (takePath fuel rest).map fun (keys, rest) => (key :: keys, rest)
      | rest => some ([key], rest)

/-- A path of keys as the tables it leads through and the key at its end. -/
def splitPath (keys : List String) : List String × String :=
  (keys.dropLast, keys.getLast?.getD "")

/-! ## Values -/

/-- A key with its value, after which blanks are dropped. -/
def takePair (value : Taker Node) : Taker (List String × Node) := fun cs =>
  match takePath maxDepth cs with
  | some (keys, '=' :: rest) =>
    match value (skipBlank rest) with
    | none => none
    | some (v, rest) => some ((keys, v), skipBlank rest)
  | _ => none

/-- The items of a list up to its end; the first argument bounds their number. -/
def takeItems (value : Taker Node) : Nat → List Node → Taker (List Node)
  | 0, _, _ => none
  | fuel + 1, done, cs =>
    match skipLines (cs.length + 1) cs with
    | none => none
    | some (']' :: rest) => some (done.reverse, rest)
    | some cs =>
      match value cs with
      | none => none
      | some (v, rest) =>
        match skipLines (rest.length + 1) rest with
        | some (',' :: rest) => takeItems value fuel (v :: done) rest
        | some (']' :: rest) => some ((v :: done).reverse, rest)
        | _ => none

/-- The members of a table in a line up to its end. -/
def takeInline (value : Taker Node) : Nat → Members → Taker Members
  | 0, _, _ => none
  | fuel + 1, done, cs =>
    match skipLines (cs.length + 1) cs with
    | none => none
    | some ('\x7d' :: rest) => some (done, rest)
    | some cs =>
      match takePair value cs with
      | none => none
      | some ((keys, v), rest) =>
        let (path, key) := splitPath keys
        match Members.addPair path key v .inline done with
        | none => none
        | some done =>
          match skipLines (rest.length + 1) rest with
          | some (',' :: rest) => takeInline value fuel done rest
          | some ('\x7d' :: rest) => some (done, rest)
          | _ => none

/-- A value whose lists and tables nest at most `depth` deep. -/
def takeValue (depth : Nat) : Taker Node := fun cs =>
  match cs with
  | '"' :: rest => (takeText ('"' :: rest)).map fun (s, r) => (.text (String.ofList s), r)
  | '\'' :: rest => (takeText ('\'' :: rest)).map fun (s, r) => (.text (String.ofList s), r)
  | '[' :: rest =>
    match depth with
    | 0 => none
    | depth + 1 =>
      (takeItems (takeValue depth) (rest.length + 1) [] rest).map
        fun (items, r) => (.list items, r)
  | '\x7b' :: rest =>
    match depth with
    | 0 => none
    | depth + 1 =>
      (takeInline (takeValue depth) (rest.length + 1) [] rest).map
        fun (ms, r) => (.table .inline ms, r)
  | cs =>
    let (token, rest) := splitScalar cs
    (Node.ofSpelling token).map fun v => (v, rest)
termination_by depth

/-! ## Files -/

/-- A line of a file. -/
inductive Statement
  | header (keys : List String)
  | listHeader (keys : List String)
  | pair (keys : List String) (v : Node)

/-- A statement at the front of a line. -/
def takeStatement : Taker Statement
  | '[' :: '[' :: rest =>
    match takePath maxDepth rest with
    | some (keys, ']' :: ']' :: rest) => some (.listHeader keys, rest)
    | _ => none
  | '[' :: rest =>
    match takePath maxDepth rest with
    | some (keys, ']' :: rest) => some (.header keys, rest)
    | _ => none
  | cs => (takePair (takeValue maxDepth) cs).map fun ((keys, v), rest) => (.pair keys v, rest)

/-- The statements of a file; the first argument bounds their number. -/
def takeStatements : Nat → List Char → Option (List Statement)
  | 0, _ => none
  | fuel + 1, cs =>
    match skipLines (cs.length + 1) cs with
    | none => none
    | some [] => some []
    | some cs =>
      match takeStatement cs with
      | none => none
      | some (statement, rest) =>
        match skipComment (skipBlank rest) with
        | none => none
        | some [] => some [statement]
        | some rest =>
          match takeNewline rest with
          | none => none
          | some rest => (takeStatements fuel rest).map (statement :: ·)

/-- A tree that is being built: its members and the path of the latest header. -/
structure Draft where
  members : Members := []
  current : List String := []

/-- Carries out a statement. -/
def Draft.apply (d : Draft) : Statement → Option Draft
  | .header keys =>
    let (path, key) := splitPath keys
    (d.members.openTable path key).map fun ms => ⟨ms, keys⟩
  | .listHeader keys =>
    let (path, key) := splitPath keys
    (d.members.openListTable path key).map fun ms => ⟨ms, keys⟩
  | .pair keys v =>
    let (path, key) := splitPath keys
    (Members.changeAt false (Members.addPair path key v) d.current .header d.members).map
      fun ms => ⟨ms, d.current⟩

/-- The tree that a file holds.  A byte order mark in front is dropped. -/
def parse? (text : List Char) : Option Members :=
  let cs := match text with
    | '\ufeff' :: rest => rest
    | cs => cs
  match takeStatements (cs.length + 1) cs with
  | none => none
  | some statements => (statements.foldlM Draft.apply {}).map Draft.members

end ChatGateway.Toml
