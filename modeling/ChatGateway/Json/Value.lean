/-!
# JSON values

A number is an integer as long as it fits a signed or unsigned word of 64 bits, and a
double otherwise; a double is kept by its bits, so that two numbers are equal exactly
when they are the same number.

The members of an object are kept in the order they were read, with repetitions.
`Json.distinct` drops the members that a later one of the same name replaces and puts the
others in the order of their names, so that objects with the same members are equal.
-/

set_option autoImplicit false

namespace ChatGateway

/-- A JSON number. -/
inductive Number
  | int (n : Int)
  | float (bits : UInt64)
deriving DecidableEq, Repr

/-- A JSON value. -/
inductive Json
  | null
  | bool (b : Bool)
  | number (n : Number)
  | str (s : String)
  | arr (items : List Json)
  | obj (members : List (String × Json))
deriving Repr, Inhabited

namespace Json

/-- An integer value. -/
def ofInt (n : Int) : Json :=
  .number (.int n)

/-- A natural number as a value. -/
def ofNat (n : Nat) : Json :=
  .number (.int n)

/-- A text, or null. -/
def ofText? : Option String → Json
  | none => .null
  | some s => .str s

/-- The value of the last member called `name`. -/
def lookup (name : String) : List (String × Json) → Option Json
  | [] => none
  | (key, value) :: rest =>
    match lookup name rest with
    | some v => some v
    | none => if key = name then some value else none

/-- The member `name` of an object. -/
def member? (name : String) : Json → Option Json
  | .obj members => lookup name members
  | _ => none

/-- The text of a text value. -/
def text? : Json → Option String
  | .str s => some s
  | _ => none

mutual

/-- Whether two values are the same, members compared in order. -/
def same : Json → Json → Bool
  | .null, .null => true
  | .bool a, .bool b => a == b
  | .number a, .number b => a == b
  | .str a, .str b => a == b
  | .arr xs, .arr ys => sameItems xs ys
  | .obj xs, .obj ys => sameMembers xs ys
  | _, _ => false

/-- Whether two lists hold the same values. -/
def sameItems : List Json → List Json → Bool
  | [], [] => true
  | x :: xs, y :: ys => same x y && sameItems xs ys
  | _, _ => false

/-- Whether two lists hold the same members. -/
def sameMembers : List (String × Json) → List (String × Json) → Bool
  | [], [] => true
  | (k, x) :: xs, (l, y) :: ys => k == l && same x y && sameMembers xs ys
  | _, _ => false

end

mutual

/-- A value is the same as another exactly when the two are equal. -/
theorem same_iff (a b : Json) : same a b = true ↔ a = b := by
  match a, b with
  | .null, b => cases b <;> simp [same]
  | .bool x, b => cases b <;> simp [same]
  | .number x, b => cases b <;> simp [same]
  | .str x, b => cases b <;> simp [same]
  | .arr xs, b =>
    cases b with
    | arr ys => simp [same, sameItems_iff xs ys]
    | _ => simp [same]
  | .obj xs, b =>
    cases b with
    | obj ys => simp [same, sameMembers_iff xs ys]
    | _ => simp [same]

/-- Lists hold the same values exactly when they are equal. -/
theorem sameItems_iff (xs ys : List Json) : sameItems xs ys = true ↔ xs = ys := by
  match xs, ys with
  | [], [] => simp [sameItems]
  | [], _ :: _ => simp [sameItems]
  | _ :: _, [] => simp [sameItems]
  | x :: xs, y :: ys => simp [sameItems, same_iff x y, sameItems_iff xs ys]

/-- Lists hold the same members exactly when they are equal. -/
theorem sameMembers_iff (xs ys : List (String × Json)) :
    sameMembers xs ys = true ↔ xs = ys := by
  match xs, ys with
  | [], [] => simp [sameMembers]
  | [], _ :: _ => simp [sameMembers]
  | _ :: _, [] => simp [sameMembers]
  | (k, x) :: xs, (l, y) :: ys =>
    simp [sameMembers, same_iff x y, sameMembers_iff xs ys]

end

/-- Two values are told apart by comparing them part by part. -/
instance : DecidableEq Json := fun a b =>
  if h : same a b = true then .isTrue ((same_iff a b).1 h)
  else .isFalse fun e => h ((same_iff a b).2 e)

/-- `members`, which are in the order of their names, with the value of `name` put in its
place, where it replaces an earlier one. -/
def insert (name : String) (value : Json) : List (String × Json) → List (String × Json)
  | [] => [(name, value)]
  | (key, v) :: rest =>
    if key = name then (name, value) :: rest
    else if name < key then (name, value) :: (key, v) :: rest
    else (key, v) :: insert name value rest

mutual

/-- The value with, of every object's members of one name, only the last, and all of them
in the order of their names. -/
def distinct : Json → Json
  | .arr items => .arr (distinctItems items)
  | .obj members => .obj ((distinctMembers members).foldl (fun ms m => insert m.1 m.2 ms) [])
  | v => v

/-- Each item with its own members made distinct. -/
def distinctItems : List Json → List Json
  | [] => []
  | v :: vs => distinct v :: distinctItems vs

/-- Each member with the members of its value made distinct. -/
def distinctMembers : List (String × Json) → List (String × Json)
  | [] => []
  | (name, v) :: rest => (name, distinct v) :: distinctMembers rest

end

example : lookup "a" [("a", .ofInt 1), ("b", .null), ("a", .ofInt 2)] = some (.ofInt 2) := by
  decide

example : distinct (.obj [("b", .null), ("a", .ofInt 1), ("b", .ofInt 2)]) =
    .obj [("a", .ofInt 1), ("b", .ofInt 2)] := by
  decide +kernel

end Json

end ChatGateway
