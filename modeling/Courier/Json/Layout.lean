import Courier.Json.Value
/-
The form in which a value is expected, apart from what it is read from: a
reader of texts and a reader of configuration trees both offer these forms, and
a record of the domain says once which fields it has.
-/

namespace Courier.Json

/-- A range of whole numbers and the name it goes by in messages. -/
structure Whole where
  name : String
  least : Int
  greatest : Int

def Whole.i32 : Whole := ⟨"i32", -2 ^ 31, 2 ^ 31 - 1⟩
def Whole.i64 : Whole := ⟨"i64", -2 ^ 63, 2 ^ 63 - 1⟩
def Whole.u16 : Whole := ⟨"u16", 0, 2 ^ 16 - 1⟩
def Whole.u32 : Whole := ⟨"u32", 0, 2 ^ 32 - 1⟩
def Whole.u64 : Whole := ⟨"u64", 0, 2 ^ 64 - 1⟩
def Whole.usize : Whole := ⟨"usize", 0, 2 ^ 64 - 1⟩

/-- A field of a record: its name, whether it must be there, and how its value
changes the record. -/
structure Field (D : Type → Type) (σ : Type) where
  name : String
  mandatory : Bool
  read : D (σ → σ)

/-- The forms that a reader `D` can expect. -/
class Layout (D : Type → Type) where
  map {α β : Type} : (α → β) → D α → D β
  text : D String
  flag : D Bool
  whole : Whole → D Int
  /-- Any value. -/
  value : D Value
  /-- A free-form object. -/
  table : D Object
  list {α : Type} : D α → D (List α)
  /-- A value or null. -/
  optional {α : Type} : D α → D (Option α)
  /-- One of some names, for the type of the given name. -/
  choice {α : Type} : String → List (String × α) → D α
  /-- A text in a notation of its own; `wanted` is what a message calls it. -/
  parsed {α : Type} : (wanted : String) → (String → Except String α) → D α
  /-- A record of the given type name that starts as given. -/
  record {σ : Type} : String → σ → List (Field D σ) → D σ

namespace Field

variable {D : Type → Type} [Layout D] {σ α : Type}

/-- A field that may be left out. -/
def optional (name : String) (d : D α) (set : α → σ → σ) : Field D σ :=
  ⟨name, false, Layout.map set d⟩

/-- A field that must be there. -/
def required (name : String) (d : D α) (set : α → σ → σ) : Field D σ :=
  ⟨name, true, Layout.map set d⟩

end Field
end Courier.Json
