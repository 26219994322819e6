import Courier.Json.Layout
import Courier.Json.Scan
/-
Reading a value of an expected form from a text. The reader goes through the
text once, so the first thing wrong in the text is what is reported. Lists and
objects may be nested 127 deep.
-/

namespace Courier.Json

open Courier.Number (digit?)

/-- Reads a value of one form; the number is how much deeper nesting may go. -/
def Decoder (α : Type) := Nat → Source → Outcome α

namespace Decoder

/-- The failure of a value that has another type than the wanted one. -/
def mismatch {α : Type} (wanted : String) (s : Source) : Outcome α :=
  let wrong (f : Found) (r : Source) : Outcome α := failUnplaced (.wrongType f wanted) r
  Outcome.placed <| match s with
    | some 'n' :: r => (literal ['u', 'l', 'l'] r).andThen fun _ r => wrong .null r
    | some 't' :: r => (literal ['r', 'u', 'e'] r).andThen fun _ r => wrong (.flag true) r
    | some 'f' :: r => (literal ['a', 'l', 's', 'e'] r).andThen fun _ r => wrong (.flag false) r
    | some '"' :: r => (quoted r).andThen fun t r => wrong (.text t) r
    | some '[' :: _ => wrong .sequence s
    | some '\x7b' :: _ => wrong .map s
    | some '-' :: r => (numeral false r).andThen found
    | some c :: r => if (digit? c).isSome then (numeral true (some c :: r)).andThen found else failNext .wantValue s
    | s => failNext .wantValue s
where
  found {α : Type} (x : Numeral) (r : Source) : Outcome α :=
    match x with
    | .whole n => failUnplaced (.wrongType (.whole n) wanted) r
    | .real x => failUnplaced (.wrongType (.real x) wanted) r

/-- Leaves out blanks in front; the text must not end there. -/
def begin {α : Type} (s : Source) (next : Source → Outcome α) : Outcome α :=
  match skipGap s with
  | [] => failNext .endInValue []
  | s => next s

def text : Decoder String := fun _ s =>
  begin s fun
    | some '"' :: r => quoted r
    | s => mismatch "a string" s

def parsed {α : Type} (wanted : String) (parse : String → Except String α) : Decoder α := fun _ s =>
  begin s fun
    | some '"' :: r =>
      (quoted r).andThen fun t r =>
        match parse t with
        | .ok a => .done a r
        | .error e => (failUnplaced (.other e) r).placed
    | s => mismatch wanted s

def flag : Decoder Bool := fun _ s =>
  begin s fun
    | some 't' :: r => (literal ['r', 'u', 'e'] r).map fun _ => true
    | some 'f' :: r => (literal ['a', 'l', 's', 'e'] r).map fun _ => false
    | s => mismatch "a boolean" s

/-- A numeral as a whole number in a range. -/
def Whole.take (w : Whole) (x : Numeral) (r : Source) : Outcome Int :=
  match x with
  | .whole n =>
    if w.least ≤ n ∧ n ≤ w.greatest then .done n r
    else (failUnplaced (.wrongValue (.whole n) w.name) r).placed
  | .real x => (failUnplaced (.wrongType (.real x) w.name) r).placed

def whole (w : Whole) : Decoder Int := fun _ s =>
  begin s fun
    | some '-' :: r => (numeral false r).andThen (Whole.take w)
    | some c :: r =>
      if (digit? c).isSome then (numeral true (some c :: r)).andThen (Whole.take w)
      else mismatch w.name (some c :: r)
    | s => mismatch w.name s

/-! ## Lists -/

/-- Whether another element follows. -/
def nextElement (first : Bool) (s : Source) : Outcome Bool :=
  match skipGap s with
  | [] => failNext .endInList []
  | some ']' :: r => .done false (some ']' :: r)
  | x :: r =>
    if first then .done true (x :: r)
    else if x = some ',' then
      match skipGap r with
      | [] => failNext .endInValue []
      | some ']' :: r => failNext .trailingComma (some ']' :: r)
      | r => .done true r
    else failNext .wantListComma (x :: r)

/-- The elements up to the closing bracket. -/
def elements {α : Type} (item : Source → Outcome α) (fuel : Nat) (first : Bool) (acc : List α)
    (s : Source) : Outcome (List α) :=
  match fuel with
  | 0 => .done acc.reverse s
  | fuel + 1 =>
    (nextElement first s).andThen fun
      | false, r => .done acc.reverse r
      | true, r => (item r).andThen fun a r => elements item fuel false (a :: acc) r

/-- The closing bracket of a list. -/
def endList (s : Source) : Outcome Unit :=
  match skipGap s with
  | [] => failNext .endInList []
  | some ']' :: r => .done () r
  | some ',' :: r =>
    match skipGap r with
    | some ']' :: r => failNext .trailingComma (some ']' :: r)
    | r => failNext .trailingText r
  | r => failNext .trailingText r

/-- The closing bracket of an object. -/
def endObject (s : Source) : Outcome Unit :=
  match skipGap s with
  | [] => failNext .endInObject []
  | some '\x7d' :: r => .done () r
  | some ',' :: r => failNext .trailingComma (some ',' :: r)
  | r => failNext .trailingText r

/-- Reads what stands between brackets, the text standing at the opening one.
The closing one is looked for even after a failure, which takes its place there. -/
def between {α : Type} (close : Source → Outcome Unit) (body : Source → Outcome α) (s : Source) : Outcome α :=
  Outcome.placed <| match body s.tail with
    | .done a r => (close r).map fun _ => a
    | .failed f r => .failed f (close r).rest

/-- Reads something nested one level deeper. -/
def nested {α : Type} (depth : Nat) (s : Source) (body : Nat → Outcome α) : Outcome α :=
  match depth with
  | 0 | 1 => failNext .tooDeep s
  | d + 2 => body (d + 1)

def list {α : Type} (item : Decoder α) : Decoder (List α) := fun depth s =>
  begin s fun
    | some '[' :: r =>
      nested depth (some '[' :: r) fun d =>
        between endList (fun r => elements (item d) (r.length + 1) true [] r) (some '[' :: r)
    | s => mismatch "a sequence" s

/-! ## Objects -/

/-- Whether another key follows. -/
def nextKey (first : Bool) (s : Source) : Outcome Bool :=
  match skipGap s with
  | [] => failNext .endInObject []
  | some '\x7d' :: r => .done false (some '\x7d' :: r)
  | x :: r =>
    if first then
      if x = some '"' then .done true (x :: r) else failNext .wantTextKey (x :: r)
    else if x = some ',' then
      match skipGap r with
      | [] => failNext .endInValue []
      | some '"' :: r => .done true (some '"' :: r)
      | some '\x7d' :: r => failNext .trailingComma (some '\x7d' :: r)
      | r => failNext .wantTextKey r
    else failNext .wantObjectComma (x :: r)

/-- The colon after a key. -/
def colon (s : Source) : Outcome Unit :=
  match skipGap s with
  | [] => failNext .endInObject []
  | some ':' :: r => .done () r
  | r => failNext .wantColon r

/-- Goes through the members up to the closing bracket, each changing `acc`. -/
def members {σ : Type} (member : σ → String → Source → Outcome σ) (fuel : Nat) (first : Bool) (acc : σ)
    (s : Source) : Outcome σ :=
  match fuel with
  | 0 => .done acc s
  | fuel + 1 =>
    (nextKey first s).andThen fun
      | false, r => .done acc r
      | true, r =>
        (quoted r.tail).andThen fun key r =>
          (member acc key r).andThen fun acc r => members member fuel false acc r

/-! ## Values of any kind -/

/-- A value of any kind, with what to do with lists and objects. -/
def valueWith (nest : Source → Outcome Value) (s : Source) : Outcome Value :=
  let found (x : Numeral) : Value := match x with
    | .whole n => .int n
    | .real x => .real x
  begin s fun
    | some 'n' :: r => (literal ['u', 'l', 'l'] r).map fun _ => .null
    | some 't' :: r => (literal ['r', 'u', 'e'] r).map fun _ => .bool true
    | some 'f' :: r => (literal ['a', 'l', 's', 'e'] r).map fun _ => .bool false
    | some '-' :: r => (numeral false r).map found
    | some '"' :: r => (quoted r).map .text
    | some c :: r =>
      if c = '[' ∨ c = '\x7b' then nest (some c :: r)
      else if (digit? c).isSome then (numeral true (some c :: r)).map found
      else failNext .wantValue (some c :: r)
    | s => failNext .wantValue s

/-- Members of a free-form object, the last one first. -/
def tableBody (value : Source → Outcome Value) (s : Source) : Outcome Object :=
  (members (fun acc key r => (colon r).andThen fun _ r => (value r).map fun v => (key, v) :: acc)
    (s.length + 1) true [] s).map fun ms => Object.ofMembers ms.reverse

def value : Decoder Value
  | 0 => valueWith fun s => failNext .tooDeep s
  | d + 1 => valueWith fun s =>
    if d = 0 then failNext .tooDeep s
    else match s with
      | some '[' :: _ =>
        between endList (fun r => (elements (value d) (r.length + 1) true [] r).map .array) s
      | s => between endObject (fun r => (tableBody (value d) r).map .object) s

def table : Decoder Object := fun depth s =>
  begin s fun
    | some '\x7b' :: r =>
      nested depth (some '\x7b' :: r) fun d => between endObject (tableBody (value d)) (some '\x7b' :: r)
    | s => mismatch "a map" s

def optional {α : Type} (d : Decoder α) : Decoder (Option α) := fun depth s =>
  match skipGap s with
  | some 'n' :: r => (literal ['u', 'l', 'l'] r).map fun _ => none
  | s => (d depth s).map some

/-- A name among some, the text standing at its quote. -/
def variantName {α : Type} (names : List (String × α)) (s : Source) : Outcome α :=
  match s with
  | some '"' :: r =>
    (quoted r).andThen fun t r =>
      match names.find? fun p => p.1 == t with
      | some p => .done p.2 r
      | none => (failUnplaced (.unknownVariant t (names.map (·.1))) r).placed
  | s => mismatch "variant identifier" s

/-- One of some names, as a text or as an object with null under the name. -/
def choice {α : Type} (typeName : String) (names : List (String × α)) : Decoder α := fun depth s =>
  let _ := typeName
  begin s fun
    | some '"' :: r => variantName names (some '"' :: r)
    | some '\x7b' :: r =>
      nested depth (some '\x7b' :: r) fun _ =>
        ((begin r (variantName names)).andThen fun a r =>
          (colon r).andThen fun _ r =>
            begin r fun
              | some 'n' :: r => (literal ['u', 'l', 'l'] r).map fun _ => a
              | s => mismatch "unit" s).andThen fun a r =>
        match skipGap r with
        | [] => failHere .endInObject []
        | some '\x7d' :: r => .done a r
        | r => failHere .wantValue r
    | s => failNext .wantValue s

/-! ## Records -/

/-- A record in the making, with the names of the fields it has got. -/
structure Partial (σ : Type) where
  value : σ
  seen : List String

/-- One member of a record: a field, or something to pass over. -/
def member {σ : Type} (fields : List (Field Decoder σ)) (depth : Nat) (p : Partial σ) (key : String)
    (s : Source) : Outcome (Partial σ) :=
  match fields.find? fun f => f.name == key with
  | some f =>
    if p.seen.contains key then failUnplaced (.duplicateField key) s
    else (colon s).andThen fun _ r =>
      (f.read depth r).map fun change => ⟨change p.value, key :: p.seen⟩
  | none => (colon s).andThen fun _ r => (skipValue r).map fun _ => p

/-- The record of an object, unless a field that must be there is missing. -/
def recordOfMembers {σ : Type} (start : σ) (fields : List (Field Decoder σ)) (depth : Nat) (s : Source) :
    Outcome σ :=
  (members (member fields depth) (s.length + 1) true ⟨start, []⟩ s).andThen fun p r =>
    match fields.find? fun f => f.mandatory && !p.seen.contains f.name with
    | some f => failUnplaced (.missingField f.name) r
    | none => .done p.value r

/-- The record of a list: the fields in their order, those at the end possibly left out. -/
def recordOfElements {σ : Type} (typeName : String) (count : Nat) (depth : Nat) (index : Nat) (acc : σ) :
    List (Field Decoder σ) → Source → Outcome σ
  | [], s => .done acc s
  | f :: fs, s =>
    (nextElement (index == 0) s).andThen fun
      | true, r =>
        (f.read depth r).andThen fun change r =>
          recordOfElements typeName count depth (index + 1) (change acc) fs r
      | false, r =>
        match (f :: fs).findIdx? (·.mandatory) with
        | some i =>
          failUnplaced (.wrongLength (index + i)
            ("struct " ++ typeName ++ " with " ++ toString count ++ (if count = 1 then " element" else " elements"))) r
        | none => .done acc r

def record {σ : Type} (typeName : String) (start : σ) (fields : List (Field Decoder σ)) : Decoder σ :=
  fun depth s =>
    begin s fun
      | some '[' :: r =>
        nested depth (some '[' :: r) fun d =>
          between endList (recordOfElements typeName fields.length d 0 start fields) (some '[' :: r)
      | some '\x7b' :: r =>
        nested depth (some '\x7b' :: r) fun d =>
          between endObject (recordOfMembers start fields d) (some '\x7b' :: r)
      | s => mismatch ("struct " ++ typeName) s

instance : Layout Decoder where
  map f d := fun depth s => (d depth s).map f
  text := text
  flag := flag
  whole := whole
  value := value
  table := table
  list := list
  optional := optional
  choice := choice
  parsed := parsed
  record := record

/-- How deep lists and objects may be nested, plus one. -/
def depthLimit : Nat := 128

/-- Reads a whole text as one value. -/
def run {α : Type} (d : Decoder α) (s : Source) : Except String α :=
  match (d depthLimit s).andThen fun a r =>
    match skipGap r with
    | [] => Outcome.done a []
    | r => failNext .trailingText r with
  | .done a _ => .ok a
  | .failed f _ => .error (f.message s)

/-- Reads a string as one value. -/
def ofString {α : Type} (d : Decoder α) (s : String) : Except String α := d.run (Source.ofString s)

end Decoder

/-- Reads a string as a value of any kind. -/
def parse (s : String) : Except String Value := Decoder.value.ofString s

end Courier.Json
