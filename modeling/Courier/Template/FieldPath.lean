import Courier.Text.Blank
import Courier.Number.Decimal
import Courier.Json.Value
/-
Dotted paths into a webhook's body. A path names its location first, which may
be left out; each further segment steps into an object by key or into an array
by position.
-/

namespace Courier

open Json (Value)

/-- What is wrong with a template. -/
inductive TemplateError
  | empty
  /-- An action that is not closed, with the octets before it. -/
  | unterminated (offset : Nat)
  | unknownFunction (name : String)
  | missingArgument (function : String)
  | invalidPath (path : String)
  deriving DecidableEq, Repr

def TemplateError.message : TemplateError → String
  | .empty => "empty template"
  | .unterminated n => "unterminated action starting at byte " ++ toString n
  | .unknownFunction f => "unknown template function: " ++ f
  | .missingArgument f => "function " ++ f ++ " expects one quoted argument"
  | .invalidPath p => "invalid field path: " ++ p

/-- The inputs a path can start from. -/
inductive Location
  | body
  deriving DecidableEq, Repr

def Location.ofName? (name : String) : Option Location := if name = "body" then some .body else none

structure FieldPath where
  location : Location
  segments : List String
  deriving DecidableEq, Repr

namespace FieldPath

/-- The pieces of a text between dots; always at least one. -/
def splitDots : List Char → List (List Char)
  | [] => [[]]
  | c :: r =>
    match splitDots r with
    | [] => [[]]
    | piece :: more => if c = '.' then [] :: piece :: more else (c :: piece) :: more

/-- The path of pieces, the first of which may name the location. -/
def ofPieces : List (List Char) → FieldPath
  | [] => ⟨.body, []⟩
  | first :: more =>
    match Location.ofName? (String.ofList first) with
    | some l => ⟨l, more.map String.ofList⟩
    | none => ⟨.body, String.ofList first :: more.map String.ofList⟩

/-- Reads a path from characters: blanks at the ends do not count, no piece may be empty. -/
def parseChars (cs : List Char) : Except TemplateError FieldPath :=
  let t := Text.trim cs
  if t.isEmpty then .error (.invalidPath "")
  else
    let pieces := splitDots t
    if pieces.any List.isEmpty then .error (.invalidPath (String.ofList t)) else .ok (ofPieces pieces)

/-- Reads a path. -/
def parse (s : String) : Except TemplateError FieldPath := parseChars s.toList

/-- The greatest position in an array. -/
def maxIndex : Nat := 2 ^ 64 - 1

/-- The position a segment stands for. -/
def index? (segment : String) : Option Nat := Number.natWithin? maxIndex segment.toList

/-- One step into a value. -/
def step (v : Value) (segment : String) : Option Value :=
  match v with
  | .object ms => Json.Object.get? ms segment
  | .array xs => (index? segment).bind fun i => xs[i]?
  | _ => none

/-- The value that a list of segments leads to. -/
def walk (v : Value) : List String → Option Value
  | [] => some v
  | s :: r => (step v s).bind fun w => walk w r

/-- The value that a path leads to from the body. -/
def navigate (p : FieldPath) (body : Value) : Option Value := walk body p.segments

end FieldPath
end Courier
