/-!
# Tables of a TOML file

A file is a tree of tables.  How a table came about decides whether it may be added to:
a table with a header of its own is complete but for subtables; one that only stands in
the path of a header may still get its header; one made by dotted keys is added to by
dotted keys only; one written in a line is closed.  The same holds for the difference
between a list of values, which is closed, and a list of tables with headers.
-/

set_option autoImplicit false

namespace ChatGateway.Toml

/-- How a table came about. -/
inductive Origin
  | header
  | path
  | dotted
  | inline
deriving DecidableEq, Repr

/-- A value of a file. -/
inductive Node
  | text (s : String)
  | integer (n : Int)
  | boolean (b : Bool)
  /-- A floating-point number, as it is spelled. -/
  | float (spelling : String)
  /-- A date, a time or both, as it is spelled. -/
  | moment (spelling : String)
  | list (items : List Node)
  /-- The members of each table of a list of tables, last table first. -/
  | tables (items : List (List (String × Node)))
  | table (origin : Origin) (members : List (String × Node))
deriving Repr, Inhabited

/-- The members of a table. -/
abbrev Members := List (String × Node)

namespace Members

/-- The value called `key`. -/
def find? (key : String) : Members → Option Node
  | [] => none
  | (k, v) :: rest => if k = key then some v else find? key rest

/-- The members with `v` in the place of the value called `key`, or at the end. -/
def set (key : String) (v : Node) : Members → Members
  | [] => [(key, v)]
  | (k, w) :: rest => if k = key then (key, v) :: rest else (k, w) :: set key v rest

/-- The members after changing the table at the end of a path.  Missing tables are made
on the way, and of a list of tables it is the last one that is meant.  `dotted` says
whether the path is one of dotted keys, which may not lead into a table with a header of
its own. -/
def changeAt (dotted : Bool) (change : Origin → Members → Option Members) :
    List String → Origin → Members → Option Members
  | [], origin, ms => change origin ms
  | key :: path, _, ms =>
    match find? key ms with
    | none =>
      let origin := if dotted then .dotted else .path
      (changeAt dotted change path origin []).map fun inner =>
        set key (.table origin inner) ms
    | some (.table origin inner) =>
      if origin = .inline ∨ (dotted ∧ origin = .header) then none
      else
        (changeAt dotted change path origin inner).map fun inner =>
          set key (.table origin inner) ms
    | some (.tables (last :: earlier)) =>
      (changeAt dotted change path .header last).map fun last =>
        set key (.tables (last :: earlier)) ms
    | some _ => none

/-- The members with one more value.  A path of dotted keys has to end in a table that
dotted keys have made. -/
def addPair (path : List String) (key : String) (v : Node) (origin : Origin)
    (ms : Members) : Option Members :=
  changeAt true (fun inner ms =>
    if path ≠ [] ∧ inner ≠ .dotted then none
    else
      match find? key ms with
      | none => some (ms ++ [(key, v)])
      | some _ => none) path origin ms

/-- The members with the table that a header opens. -/
def openTable (path : List String) (key : String) (ms : Members) : Option Members :=
  changeAt false (fun _ ms =>
    match find? key ms with
    | none => some (ms ++ [(key, .table .header [])])
    | some (.table .path inner) => some (set key (.table .header inner) ms)
    | some _ => none) path .header ms

/-- The members with one more table in the list that a header names. -/
def openListTable (path : List String) (key : String) (ms : Members) : Option Members :=
  changeAt false (fun _ ms =>
    match find? key ms with
    | none => some (ms ++ [(key, .tables [[]])])
    | some (.tables items) => some (set key (.tables ([] :: items)) ms)
    | some _ => none) path .header ms

end Members

end ChatGateway.Toml
