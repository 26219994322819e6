import Courier.Configuration.Failure
import Courier.Json.Layout
/-
Reading a value of an expected form from a configuration tree. Scalars are
taken leniently: a number may be written as a text, a truth value as a word or
a number, a text as a number or a truth value.
-/

namespace Courier.Configuration

open Courier.Number (Binary64)
open Json (Layout Field Whole Value Object)

/-- Reads a value of one form from a tree. -/
def Reading (α : Type) := Tree → Except Failure α

namespace Reading

/-- The tree is no scalar of the wanted kind. -/
def misfit {α : Type} (t : Tree) (wanted : String) : Except Failure α :=
  .error (.misfit (.ofTree t) wanted none t.origin)

/-- What is said of a value where a structure is wanted. -/
def shape : Tree → String
  | .flag b _ => (Json.Found.flag b).show
  | .whole n _ => (Json.Found.whole n).show
  | .real x _ => (Json.Found.real x).show
  | .text s _ => (Json.Found.text s).show
  | .nothing _ => Misfit.nothing.phrase
  | .list _ _ => Misfit.sequence.phrase
  | .table _ _ => Misfit.map.phrase

/-- The tree is not the structure that is wanted. -/
def wrongShape {α : Type} (t : Tree) (wanted : String) : Except Failure α :=
  .error (.other ("invalid type: " ++ shape t ++ ", expected " ++ wanted))

/-- The truth value that a word stands for, in any case of its letters. -/
def truth? (s : String) : Option Bool :=
  if ["1", "true", "on", "yes"].contains s then some true
  else if ["0", "false", "off", "no"].contains s then some false
  else none

def lowered (s : String) : String := String.ofList (s.toList.map Text.lowerLetter)

def flag : Reading Bool := fun t =>
  match t with
  | .flag b _ => .ok b
  | .whole n _ => .ok (n != 0)
  | .real x _ => .ok !x.isZero
  | .text s o =>
    match truth? (lowered s) with
    | some b => .ok b
    | none => .error (.misfit (.text (lowered s)) "a boolean" none o)
  | t => misfit t "a boolean"

def text : Reading String := fun t =>
  match t with
  | .text s _ => .ok s
  | .flag b _ => .ok (toString b)
  | .whole n _ => .ok (Number.text n)
  | .real x _ => .ok (x.render plainStyle)
  | t => misfit t "a string"

/-- The number of 64 bits that a word or numeral stands for. -/
def spelled? (low high : Int) (s : String) : Option Int :=
  match lowered s with
  | "true" | "on" | "yes" => some 1
  | "false" | "off" | "no" => some 0
  | _ => if low < 0 then Number.intWithin? low high s.toList
    else (Number.natWithin? high.toNat s.toList).map fun n => (n : Int)

/-- A number from `low` to `high`, the bounds of the 64-bit numbers with or
without a sign. Doubles are rounded, and brought into the range. -/
def whole64 (low high : Int) : Reading Int := fun t =>
  match t with
  | .whole n o =>
    if low ≤ n then .ok n else .error (.misfit (.whole n) "an unsigned 64 bit or less integer" none o)
  | .flag b _ => .ok (if b then 1 else 0)
  | .real x _ => .ok (x.nearest.toIntWithin low high)
  | .text s _ =>
    match spelled? low high s with
    | some n => .ok n
    | none => misfit t "an integer"
  | t => misfit t "an integer"

/-- A number in a range. One of 64 bits that is outside a narrower range is
reported without the source that says it. -/
def whole (w : Whole) : Reading Int := fun t => do
  let wide := if w.least < 0 then Whole.i64 else Whole.u64
  let n ← whole64 wide.least wide.greatest t
  if w.least ≤ n ∧ n ≤ w.greatest then .ok n
  else
    let bits := toString ((w.greatest - w.least + 1).toNat.log2)
    if w.least < 0 then .error (.misfit (.whole n) ("a signed " ++ bits ++ " bit integer") none none)
    else .error (.misfit (.natural n.toNat) ("an unsigned " ++ bits ++ " bit integer") none none)

mutual

/-- A tree as a free-form value; a double that is not finite is null there. -/
def toValue : Tree → Value
  | .nothing _ => .null
  | .flag b _ => .bool b
  | .whole n _ => .int n
  | .real (.finite s m e) _ => .real (.finite s m e)
  | .real _ _ => .null
  | .text s _ => .text s
  | .list ts _ => .array (toValues ts)
  | .table ms _ => .object (toObject ms)

def toValues : List Tree → List Value
  | [] => []
  | t :: r => toValue t :: toValues r

def toObject : List (String × Tree) → Object
  | [] => []
  | (k, t) :: r => Object.insert (toObject r) k (toValue t)

end

def table : Reading Object := fun t =>
  match t with
  | .table ms _ => .ok (toObject ms)
  | t => wrongShape t "a map"

/-- The items of a list, the first of them at the given index. -/
def itemsFrom {α : Type} (item : Reading α) : Nat → List Tree → Except Failure (List α)
  | _, [] => .ok []
  | i, t :: r => do
    let a ← (item t).mapError (Failure.underIndex i)
    return a :: (← itemsFrom item (i + 1) r)

def list {α : Type} (item : Reading α) : Reading (List α) := fun t =>
  match t with
  | .list ts _ => itemsFrom item 0 ts
  | t => wrongShape t "a sequence"

def optional {α : Type} (d : Reading α) : Reading (Option α) := fun t =>
  match t with
  | .nothing _ => .ok none
  | t => (d t).map some

/-- One of some names in any case, as a text or as the only key of a table. -/
def choice {α : Type} (typeName : String) (names : List (String × α)) : Reading α := fun t =>
  let pick (s : String) : Except Failure α :=
    match names.find? fun p => lowered p.1 == lowered s with
    | some p => .ok p.2
    | none => .error (.other ("enum " ++ typeName ++ " does not have variant constructor " ++ s))
  match t with
  | .text s _ => pick s
  | .table [(key, _)] _ => pick key
  | _ => .error (.other
      ("value of enum " ++ typeName ++ " should be represented by either string or table with exactly one key"))

def parsed {α : Type} (_wanted : String) (parse : String → Except String α) : Reading α := fun t => do
  (parse (← text t)).mapError .other

/-! ## Records -/

/-- A record with the members of a table read into it. Members that are no fields are passed over. -/
def readMembers {σ : Type} (fields : List (Field Reading σ)) (acc : σ) :
    List (String × Tree) → Except Failure σ
  | [] => .ok acc
  | (key, t) :: r =>
    match fields.find? fun f => f.name == key with
    | some f => do
      let change ← (f.read t).mapError (Failure.underKey key)
      readMembers fields (change acc) r
    | none => readMembers fields acc r

/-- A record with the items of a list read into its fields in their order. -/
def readItems {σ : Type} (typeName : String) (count : Nat) (i : Nat) (acc : σ) :
    List (Field Reading σ) → List Tree → Except Failure σ
  | [], _ => .ok acc
  | f :: fs, t :: r => do
    let change ← (f.read t).mapError (Failure.underIndex i)
    readItems typeName count (i + 1) (change acc) fs r
  | fs, [] =>
    match fs.findIdx? (·.mandatory) with
    | some j => .error (.other ("invalid length " ++ toString (i + j) ++ ", expected struct " ++ typeName ++ " with "
        ++ toString count ++ (if count = 1 then " element" else " elements")))
    | none => .ok acc

def record {σ : Type} (typeName : String) (start : σ) (fields : List (Field Reading σ)) : Reading σ := fun t =>
  match t with
  | .table ms _ => do
    let a ← readMembers fields start ms
    match fields.find? fun f => f.mandatory && !(ms.any fun m => m.1 == f.name) with
    | some f => .error (.other ("missing field `" ++ f.name ++ "`"))
    | none => .ok a
  | .list ts _ => readItems typeName fields.length 0 start fields ts
  | t => wrongShape t ("struct " ++ typeName)

instance : Layout Reading where
  map f d := fun t => (d t).map f
  text := text
  flag := flag
  whole := whole
  value := fun t => .ok (toValue t)
  table := table
  list := list
  optional := optional
  choice := choice
  parsed := parsed
  record := record

end Reading
end Courier.Configuration
