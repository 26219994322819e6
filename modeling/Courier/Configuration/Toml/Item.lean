import Courier.Configuration.Tree
/-
Tables in the making. A table may come into being by being passed through in a
header or in a dotted key, and be opened later; one that was opened, or that
stands as a value, is closed.
-/

namespace Courier.Configuration.Toml

/-- A name in a key, and how it was written. -/
structure Key where
  name : String
  written : String

/-- A value and what kind of value messages call it. -/
structure Given where
  kind : String
  tree : Tree

inductive Item
  | leaf (value : Given)
  /-- A table: whether it was only passed through, and whether a dotted key made it. -/
  | table (passed dotted : Bool) (members : List (String × Item))
  /-- Tables under one name, the last one first. -/
  | tables (each : List Item)

/-- A keyed part is there already, or in the way. -/
inductive Clash
  | duplicate (name : String)
  | duplicateIn (name : String) (table : List Key)
  | inTheWay (path : List Key) (kind : String)

def spelled (path : List Key) : String := String.intercalate "." (path.map (·.written))

def Clash.message : Clash → String
  | duplicate name => "duplicate key `" ++ name ++ "`"
  | duplicateIn name [] => "duplicate key `" ++ name ++ "` in document root"
  | duplicateIn name table => "duplicate key `" ++ name ++ "` in table `" ++ spelled table ++ "`"
  | inTheWay path kind =>
    "dotted key `" ++ spelled path ++ "` attempted to extend non-table type (" ++ kind ++ ")"

namespace Item

/-- A table with nothing in it that stands by itself. -/
def emptyTable : Item := .table false false []

def members : Item → List (String × Item)
  | .table _ _ ms => ms
  | _ => []

/-- A table with a member under a name, in its old place if there is one. -/
def put (t : Item) (name : String) (i : Item) : Item :=
  match t with
  | .table p d ms =>
    if ms.any (·.1 == name) then .table p d (ms.map fun m => if m.1 == name then (name, i) else m)
    else .table p d (ms ++ [(name, i)])
  | t => t

/-- How a path is gone along: by a header, by a dotted key of a table, or by one
between braces. -/
inductive Manner | header | dotted | braced
  deriving DecidableEq

/-- The table at the end of a path changed. Tables on the way are made if they
are not there; a dotted key passes only through tables that were never opened. -/
def within (manner : Manner) (whole : List Key) (change : Item → Except Clash Item) :
    List Key → Item → Except Clash Item
  | [], t => change t
  | k :: path, t =>
    let before := whole.take (whole.length - path.length)
    match t.members.lookup k.name with
    | none => (within manner whole change path (.table true (manner ≠ .header) [])).map (t.put k.name)
    | some (.leaf g) =>
      if manner = .braced ∧ g.kind = "inline table" then .error (.duplicate k.name)
      else .error (.inTheWay before g.kind)
    | some (.tables (last :: each)) =>
      (within manner whole change path last).map fun i => t.put k.name (.tables (i :: each))
    | some (.tables []) => .ok t
    | some (.table passed dotted ms) =>
      if manner ≠ .header ∧ !passed then .error (.duplicate k.name)
      else (within manner whole change path (.table passed dotted ms)).map (t.put k.name)

/-- A table with a value under a dotted key; `name` is the table's. -/
def define (manner : Manner) (name : List Key) (path : List Key) (key : Key) (value : Given) (t : Item) :
    Except Clash Item :=
  within manner path (fun t =>
    match t with
    | .table _ dotted ms =>
      if dotted = path.isEmpty then .error (.duplicate key.name)
      else if (ms.lookup key.name).isSome then
        .error (if manner = .braced then .duplicate key.name else .duplicateIn key.name name)
      else .ok (t.put key.name (.leaf value))
    | t => .ok t) path t

mutual

/-- What has been made, as a tree. -/
def toTree (origin : Origin) : Item → Tree
  | .leaf g => g.tree
  | .table _ _ ms => .table (toMembers origin ms) origin
  | .tables each => .list (toTrees origin each).reverse origin

def toMembers (origin : Origin) : List (String × Item) → List (String × Tree)
  | [] => []
  | (k, i) :: r => (k, toTree origin i) :: toMembers origin r

def toTrees (origin : Origin) : List Item → List Tree
  | [] => []
  | i :: r => toTree origin i :: toTrees origin r

end

end Item
end Courier.Configuration.Toml
