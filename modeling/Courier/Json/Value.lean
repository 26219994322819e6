import Courier.Number.Binary64
/-
Values of the data format: null, truth values, whole numbers, doubles, texts,
arrays and objects. An object is a list of members; a free-form object is kept
in the order of its keys, a later member taking the place of an earlier one of
the same key. The members of the program's own records stand in their written
order.
-/

namespace Courier.Json

open Courier.Number (Binary64)

inductive Value
  | null
  | bool (b : Bool)
  | int (n : Int)
  | real (x : Binary64)
  | text (s : String)
  | array (xs : List Value)
  | object (members : List (String × Value))
  deriving Repr, Inhabited

/-- The members of an object. -/
abbrev Object := List (String × Value)

namespace Object

/-- The value stored under a key. -/
def get? (o : Object) (key : String) : Option Value :=
  match o with
  | [] => none
  | (k, v) :: r => if k = key then some v else get? r key

def contains (o : Object) (key : String) : Bool := (o.get? key).isSome

/-- Stores a value under a key, keeping the order of the keys. -/
def insert (o : Object) (key : String) (v : Value) : Object :=
  match o with
  | [] => [(key, v)]
  | (k, w) :: r =>
    if key = k then (key, v) :: r
    else if key < k then (key, v) :: (k, w) :: r
    else (k, w) :: insert r key v

/-- An object of members given in any order; of two members with one key the later one stays. -/
def ofMembers (ms : List (String × Value)) : Object := ms.foldl (fun o m => insert o m.1 m.2) []

/-- All members of the second object over those of the first. -/
def overlay (base top : Object) : Object := top.foldl (fun o m => insert o m.1 m.2) base

@[simp] theorem get?_nil (key : String) : get? [] key = none := rfl

theorem get?_cons (k : String) (v : Value) (r : Object) (key : String) :
    get? ((k, v) :: r) key = if k = key then some v else get? r key := rfl

@[simp] theorem get?_insert_self (o : Object) (key : String) (v : Value) :
    (o.insert key v).get? key = some v := by
  induction o with
  | nil => simp [insert, get?_cons]
  | cons m r ih =>
    obtain ⟨k, w⟩ := m
    simp only [insert]
    split
    · simp [get?_cons]
    split
    · simp [get?_cons]
    · next h _ => simp [get?_cons, ih, Ne.symm h]

theorem get?_insert_ne (o : Object) {key other : String} (v : Value) (h : key ≠ other) :
    (o.insert key v).get? other = o.get? other := by
  induction o with
  | nil => simp [insert, get?_cons, h]
  | cons m r ih =>
    obtain ⟨k, w⟩ := m
    simp only [insert]
    split
    · next hk => subst hk; simp [get?_cons, h]
    split
    · simp [get?_cons, h]
    · simp [get?_cons, ih]

theorem get?_insert (o : Object) (key other : String) (v : Value) :
    (o.insert key v).get? other = if key = other then some v else o.get? other := by
  by_cases h : key = other
  · subst h; simp
  · simp [h, get?_insert_ne o v h]

end Object

namespace Value

/-- The member of an object under a key; nothing for a value of another kind. -/
def get? (v : Value) (key : String) : Option Value :=
  match v with
  | .object ms => Object.get? ms key
  | _ => none

end Value
end Courier.Json
