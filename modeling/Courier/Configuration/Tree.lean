import Courier.Number.Binary64
import Courier.Number.Decimal
import Courier.Text.Ascii
/-
Configuration as a tree whose parts know where they were written, and how one
source of settings is laid over what earlier sources said. Keys of tables are
kept in lower case; what stands inside lists is kept as written.
-/

namespace Courier.Configuration

open Courier.Number (Binary64)

/-- The file or other source in which something is written. -/
abbrev Origin := Option String

inductive Tree
  | nothing (origin : Origin)
  | flag (b : Bool) (origin : Origin)
  | whole (n : Int) (origin : Origin)
  | real (x : Binary64) (origin : Origin)
  | text (s : String) (origin : Origin)
  | list (items : List Tree) (origin : Origin)
  | table (members : List (String × Tree)) (origin : Origin)
  deriving Repr, Inhabited

namespace Tree

/-- A table of nothing, written nowhere. -/
def empty : Tree := .table [] none

def origin : Tree → Origin
  | .nothing o | .flag _ o | .whole _ o | .real _ o | .text _ o | .list _ o | .table _ o => o

/-- The members of a table; what is no table has none. -/
def members : Tree → List (String × Tree)
  | .table ms _ => ms
  | _ => []

/-- The items of a list; what is no list has none. -/
def items : Tree → List Tree
  | .list ts _ => ts
  | _ => []

/-- The member of a table under a key. -/
def get? (t : Tree) (key : String) : Option Tree := t.members.lookup key

/-- Members with one of them set, in its old place if there is one. -/
def setMember (key : String) (v : Tree) : List (String × Tree) → List (String × Tree)
  | [] => [(key, v)]
  | (k, w) :: r => if k = key then (key, v) :: r else (k, w) :: setMember key v r

/-- A table with a member set. What is no table becomes one. -/
def put (t : Tree) (key : String) (v : Tree) : Tree :=
  match t with
  | .table ms o => .table (setMember key v ms) o
  | _ => .table [(key, v)] none

mutual

/-- A table with a value laid over the member under a key: tables are merged,
anything else takes the place of what was there. -/
def graft (root : Tree) (key : String) (value : Tree) : Tree :=
  match value with
  | .table ms _ =>
    root.put (Text.lower key) (graftAll ((root.get? (Text.lower key)).getD empty) ms)
  | v => root.put (Text.lower key) v

/-- A table with members laid over its own. -/
def graftAll (root : Tree) (members : List (String × Tree)) : Tree :=
  match members with
  | [] => root
  | (k, v) :: r => graftAll (graft root k v) r

end

/-! ## Paths -/

/-- A step from a table to a member, or from a list to an item. A negative
index counts from the end. -/
inductive Step
  | key (name : String)
  | index (i : Int)
  deriving DecidableEq, Repr

def isKeyChar (c : Char) : Bool := c.isAlphanum || c == '_' || c == '-'

/-- The steps after the first one: a point and a name, or an index in brackets. -/
def stepsFrom : Nat → List Char → Option (List Step)
  | _, [] => some []
  | 0, _ => none
  | fuel + 1, '.' :: r =>
    match r.takeWhile isKeyChar with
    | [] => none
    | name => (stepsFrom fuel (r.dropWhile isKeyChar)).map (.key (String.ofList name) :: ·)
  | fuel + 1, '[' :: r =>
    match r.span (· ≠ ']') with
    | (inside, ']' :: r) =>
      let isSpace (c : Char) : Bool := c = ' ' ∨ c = '\t'
      match Number.int? ((inside.dropWhile isSpace).reverse.dropWhile isSpace).reverse with
      | some i => (stepsFrom fuel r).map (.index i :: ·)
      | none => none
    | _ => none
  | _, _ => none

/-- The path that a key spells; a key that spells none is one name. -/
def pathOf (key : String) : List Step :=
  let cs := key.toList
  match cs.takeWhile isKeyChar with
  | [] => [.key key]
  | name => ((stepsFrom cs.length (cs.dropWhile isKeyChar)).map (.key (String.ofList name) :: ·)).getD [.key key]

/-- Where an index points in a list of some length. -/
def position? (i : Int) (length : Nat) : Option Nat :=
  if 0 ≤ i then some i.toNat else if i.natAbs ≤ length then some (length - i.natAbs) else none

/-- A list with one item changed, which is made if it is not there. What is no list becomes one. -/
def changeItem (t : Tree) (i : Int) (change : Tree → Tree) : Tree :=
  match position? i t.items.length with
  | none => t
  | some n =>
    let full := t.items ++ List.replicate (n + 1 - t.items.length) (.nothing none)
    let origin := match t with
      | .list _ o => o
      | _ => none
    .list (full.set n (change (full.getD n (.nothing none)))) origin

/-- A tree with a value laid over what is at the end of a path. -/
def setAt (value : Tree) (root : Tree) : List Step → Tree
  | [] => value
  | [.key k] => root.graft k value
  | [.index i] => root.changeItem i fun _ => value
  | .key k :: path =>
    root.put (Text.lower k) (setAt value ((root.get? (Text.lower k)).getD (.nothing none)) path)
  | .index i :: path => root.changeItem i fun t => setAt value t path

/-- A tree with all that one source says laid over it; the keys of the source are paths. -/
def overlay (root : Tree) (source : List (String × Tree)) : Tree :=
  source.foldl (fun t m => setAt m.2 t (pathOf m.1)) root

end Tree
end Courier.Configuration
