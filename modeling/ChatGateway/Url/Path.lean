import ChatGateway.Url.Percent

/-!
# Paths of a URL

A path is segments, each after a slash.  The segment `.` stands for the directory it is
in and `..` for the one above.  A letter with a colon or a bar names a drive: as the
first segment of a file's path it is written with a colon, and no `..` leads out of it.
-/

set_option autoImplicit false

namespace ChatGateway.Url

/-- Whether `c` divides a path, for a scheme that takes a backslash for a slash or not. -/
def isSlash (lenient : Bool) (c : Char) : Bool :=
  c = '/' || (lenient && c = '\\')

/-- Whether a segment names a drive. -/
def isDrive : List Char → Bool
  | [c, d] => c.isAlpha && (d = ':' || d = '|')
  | _ => false

/-- The segments of a text between slashes; the second argument holds the segment being
read, last character first. -/
def segments (lenient : Bool) (segment : List Char) : List Char → List (List Char)
  | [] => [segment.reverse]
  | c :: cs =>
    if isSlash lenient c then segment.reverse :: segments lenient [] cs
    else segments lenient (c :: segment) cs

/-- A segment in which each point may also be written as a byte. -/
def plainPoints : List Char → List Char
  | '%' :: '2' :: 'e' :: rest => '.' :: plainPoints rest
  | '%' :: '2' :: 'E' :: rest => '.' :: plainPoints rest
  | c :: rest => c :: plainPoints rest
  | [] => []

/-- The directory above one, which is given last character first and ends in a slash.
There is none above the root and above a drive. -/
def above : List Char → List Char
  | '/' :: rest =>
    match rest.dropWhile (· ≠ '/') with
    | [] => '/' :: rest
    | up => if isDrive (rest.takeWhile (· ≠ '/')).reverse then '/' :: rest else up
  | path => path

/-- A directory, last character first, with a segment added, after which a slash comes
unless it is the last one.  `isFile` says whether a first segment may name a drive. -/
def addSegment (isFile isLast : Bool) (path segment : List Char) : List Char :=
  let name := percentEncode pathSpecial segment
  if plainPoints name = ['.', '.'] then above path
  else if plainPoints name = ['.'] then path
  else
    let name := if isFile ∧ path = ['/'] ∧ isDrive name then name.take 1 ++ [':'] else name
    if isLast then name.reverse ++ path else '/' :: (name.reverse ++ path)

/-- A directory, last character first, with some segments added. -/
def addSegments (isFile : Bool) : List Char → List (List Char) → List Char
  | path, [] => path
  | path, s :: rest => addSegments isFile (addSegment isFile rest.isEmpty path s) rest

/-- The path below the root that a text denotes. -/
def readPath (isFile lenient : Bool) (cs : List Char) : List Char :=
  (addSegments isFile ['/'] (segments lenient [] cs)).reverse

/-- Whether the first segment of a path names a drive. -/
def startsWithDrive (path : List Char) : Bool :=
  match path with
  | '/' :: rest => isDrive (rest.takeWhile (· ≠ '/'))
  | _ => false

/-- A path with one slash at its front in place of several. -/
def oneSlash (path : List Char) : List Char :=
  '/' :: path.dropWhile (· = '/')

example : readPath false true "a/./b/../c d".toList = "/a/c%20d".toList := by decide +kernel
example : readPath false false "a/%2E%2e/..".toList = "/".toList := by decide +kernel
example : readPath true true "C|/../x".toList = "/C:/x".toList := by decide +kernel

end ChatGateway.Url
