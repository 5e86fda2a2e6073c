import ChatGateway.Url.Host
import ChatGateway.Url.Path

/-!
# URLs

A URL is read with all the leniency of browsers and written in its normal form: scheme
and host in small letters, the usual service of a scheme left out, dots in the path
resolved, and characters that cannot stand in a part written as bytes.
-/

set_option autoImplicit false

namespace ChatGateway

/-- A URL in its normal form. -/
structure Url where
  scheme : String
  /-- The name of the user in front of the host, which may be empty. -/
  user : String
  password : Option String
  /-- The host, which is empty in some URLs that name none. -/
  host : Option String
  /-- The number of the service at the host, if it is not the usual one. -/
  service : Option Nat
  path : String
  query : Option String
  fragment : Option String
deriving DecidableEq, Repr

namespace Url

/-- The number of the usual service of a scheme. -/
def usualService : String → Option Nat
  | "http" => some 80
  | "https" => some 443
  | "ws" => some 80
  | "wss" => some 443
  | "ftp" => some 21
  | _ => none

/-- Whether the scheme is one of those whose URLs always name a host. -/
def needsHost (scheme : String) : Bool :=
  (usualService scheme).isSome

/-- Whether the URL names a host. -/
def namesHost (u : Url) : Bool :=
  match u.host with
  | none => false
  | some host => host ≠ ""

/-- The user and the password as they are written in front of a host. -/
def credentialsText (u : Url) : String :=
  match u.password with
  | some password => u.user ++ ":" ++ password ++ "@"
  | none => if u.user = "" then "" else u.user ++ "@"

/-- A URL as it is written. -/
def toText (u : Url) : String :=
  let authority := match u.host with
    | none => if "//".isPrefixOf u.path then "/." else ""
    | some host =>
      "//" ++ u.credentialsText ++ host ++
        match u.service with
        | none => ""
        | some n => ":" ++ toString n
  u.scheme ++ ":" ++ authority ++ u.path ++
    (match u.query with
      | none => ""
      | some q => "?" ++ q) ++
    (match u.fragment with
      | none => ""
      | some f => "#" ++ f)

/-- Whether the bytes that a part of a URL stands for are text. -/
def isText (part : String) : Bool :=
  (Text.Utf8.decode? (percentDecode part.toList)).isSome

/-- The URL without its user and its password.  They stay if the user is no text, or if
there is no user and the password is no text. -/
def withoutCredentials (u : Url) : Url :=
  let kept := !isText u.user || (u.user = "" && !(u.password.all isText))
  if kept then u else { u with user := "", password := none }

/-! ## Reading -/

/-- The text that is read: nothing up to a space at either end, no tabs, no ends of lines. -/
def cleaned (cs : List Char) : List Char :=
  let isEdge (c : Char) : Bool := c.toNat ≤ 0x20
  let cs := ((cs.dropWhile isEdge).reverse.dropWhile isEdge).reverse
  cs.filter fun c => c ≠ '\t' ∧ c ≠ '\n' ∧ c ≠ '\r'

/-- The scheme and what follows its colon. -/
def splitScheme (cs : List Char) : Option (String × List Char) :=
  let isPart (c : Char) : Bool := c.isAlphanum || c = '+' || c = '-' || c = '.'
  let scheme := cs.takeWhile isPart
  match scheme, cs.dropWhile isPart with
  | c :: _, ':' :: rest =>
    if c.isAlpha then some (String.ofList (scheme.map Char.toLower), rest) else none
  | _, _ => none

/-- What stands before the last `@`, if there is one, and what follows it. -/
def splitCredentials (cs : List Char) : Option (List Char) × List Char :=
  let host := (cs.reverse.takeWhile (· ≠ '@')).reverse
  if host.length = cs.length then (none, cs) else (some (cs.take (cs.length - host.length - 1)), host)

/-- The user and the password in a text before `@`; an empty password is none. -/
def credentialsOf (cs : List Char) : String × Option String :=
  let written (cs : List Char) : String := String.ofList (percentEncode userSpecial cs)
  let user := written (cs.takeWhile (· ≠ ':'))
  match cs.dropWhile (· ≠ ':') with
  | _ :: c :: rest => (user, some (written (c :: rest)))
  | _ => (user, none)

/-- The text of a host and what follows it.  Colons in brackets belong to the host. -/
def splitHost (inside : Bool) : List Char → List Char × List Char
  | [] => ([], [])
  | c :: cs =>
    if c = ':' ∧ !inside then ([], c :: cs)
    else
      let (host, rest) := splitHost (if c = '[' then true else if c = ']' then false else inside) cs
      (c :: host, rest)

/-- The number of the service after a host, of which the usual one counts as none, and
what follows it.  Only a backslash may end the number. -/
def serviceOf (scheme : String) : List Char → Option (Option Nat × List Char)
  | ':' :: cs =>
    let digits := cs.takeWhile Char.isDigit
    let rest := cs.dropWhile Char.isDigit
    match numberIn 10 digits with
    | none => none
    | some n =>
      if 65535 < n ∨ (rest ≠ [] ∧ rest.head? ≠ some '\\') then none
      else if digits.isEmpty ∨ usualService scheme = some n then some (none, rest)
      else some (some n, rest)
  | cs => some (none, cs)

/-- What stands between the two slashes and the path. -/
structure Authority where
  user : String
  password : Option String
  host : String
  service : Option Nat
  /-- What does not belong to it but to the path. -/
  rest : List Char

/-- The authority that a text holds; `isLast` says whether the URL ends with it.  A user
needs a host. -/
def authorityOf (scheme : String) (isLast : Bool) (cs : List Char) : Option Authority :=
  let (credentials, cs) := splitCredentials cs
  let (user, password) := credentialsOf (credentials.getD [])
  let (host, rest) := splitHost false cs
  if host.isEmpty then
    if needsHost scheme ∨ rest ≠ [] ∨ user ≠ "" ∨ password.isSome ∨
        (credentials = some [] ∧ !isLast) then none
    else some ⟨"", none, "", none, []⟩
  else
    match if needsHost scheme then hostOf host else opaqueHostOf host, serviceOf scheme rest with
    | some host, some (service, rest) => some ⟨user, password, host, service, rest⟩
    | _, _ => none

/-- The parts of a text up to the query, of the query and of the fragment. -/
def splitParts (cs : List Char) : List Char × Option (List Char) × Option (List Char) :=
  let front := cs.takeWhile (· ≠ '#')
  let fragment := match cs.dropWhile (· ≠ '#') with
    | _ :: rest => some rest
    | [] => none
  match front.dropWhile (· ≠ '?') with
  | _ :: query => (front.takeWhile (· ≠ '?'), some query, fragment)
  | [] => (front, none, fragment)

/-- The host and the path of a file's URL, from what follows two slashes.  A host that
names a drive belongs to the path, and a path that starts with a drive has no host. -/
def fileParts (cs : List Char) : Option (String × List Char) :=
  let name := cs.takeWhile fun c => !isSlash true c
  let rest := cs.dropWhile fun c => !isSlash true c
  let hostless (cs : List Char) : String × List Char := ("", oneSlash (readPath true true cs))
  if isDrive name then some (hostless cs)
  else if name.isEmpty then some (hostless rest)
  else
    (hostOf name).map fun host =>
      if host = "localhost" then hostless rest
      else
        let path := readPath true true rest.tail
        (if startsWithDrive path then "" else host, oneSlash path)

/-- A URL whose scheme and whose text after the scheme are known. -/
def ofParts (scheme : String) (rest : List Char) : Option Url :=
  let lenient := needsHost scheme || scheme = "file"
  let (front, query, fragment) := splitParts rest
  let isLast := query.isNone && fragment.isNone
  let query := query.map fun q =>
    String.ofList (percentEncode (if lenient then '\'' :: querySpecial else querySpecial) q)
  let fragment := fragment.map fun f => String.ofList (percentEncode fragmentSpecial f)
  let plain (host : Option String) (path : List Char) : Url :=
    ⟨scheme, "", none, host, none, String.ofList path, query, fragment⟩
  let hosted (cs : List Char) : Option Url :=
    let authority := cs.takeWhile fun c => !isSlash lenient c
    let path := cs.dropWhile fun c => !isSlash lenient c
    (authorityOf scheme (isLast && path.isEmpty) authority).map fun a =>
      let path := match a.rest ++ path with
        | [] => if lenient then ['/'] else []
        | c :: cs => readPath false lenient (if isSlash lenient c then cs else c :: cs)
      ⟨scheme, a.user, a.password, some a.host, a.service, String.ofList path, query, fragment⟩
  if needsHost scheme then hosted (front.dropWhile (isSlash true))
  else if scheme = "file" then
    match front with
    | a :: b :: cs =>
      if isSlash true a ∧ isSlash true b then
        (fileParts cs).map fun (host, path) => plain (some host) path
      else
        let path := readPath true true (if isSlash true a then b :: cs else front)
        some (plain (some "") (oneSlash path))
    | cs => some (plain (some "") (oneSlash (readPath true true cs)))
  else
    match front with
    | '/' :: '/' :: cs => hosted cs
    | '/' :: cs => some (plain none (readPath false false cs))
    | cs => some (plain none (percentEncode [] cs))

/-- The URL that a text denotes. -/
def ofText? (s : String) : Option Url :=
  match splitScheme (cleaned s.toList) with
  | none => none
  | some (scheme, rest) => ofParts scheme rest

/-- A URL as it is written after reading. -/
def normalForm? (s : String) : Option String :=
  (ofText? s).map toText

example : normalForm? "HTTP://u:p@Example.COM:80/a/./b/../c d?x='#y" =
    some "http://u:p@example.com/a/c%20d?x=%27#y" := by decide +kernel
example : (ofText? "ftp://u:p@h/").map (toText ∘ withoutCredentials) = some "ftp://h/" := by
  decide +kernel
example : normalForm? "http:/terminal/sessions" = some "http://terminal/sessions" := by
  decide +kernel
example : normalForm? "localhost:8080/x" = some "localhost:8080/x" := by decide +kernel
example : normalForm? "not a url/x" = none := by decide +kernel
example : normalForm? "http://h:99999/" = none ∧ normalForm? "http://a b/" = none := by
  decide +kernel

end Url

end ChatGateway
