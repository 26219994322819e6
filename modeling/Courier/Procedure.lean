/-
Courses of action. A procedure asks its surroundings, one question after the
other, and goes on with the answers; what the surroundings are is left open.
So a statement about a procedure can speak of all answers there could be.
-/

namespace Courier

/-- A course of action that asks questions `Q`, each of which has answers of its
own type, and ends with a result. -/
inductive Procedure (Q : Type) (A : Q → Type) (α : Type)
  | result (a : α)
  | ask (q : Q) (next : A q → Procedure Q A α)

namespace Procedure

variable {Q : Type} {A : Q → Type} {α β : Type}

/-- One question alone. -/
def query (q : Q) : Procedure Q A (A q) := .ask q .result

def bind : Procedure Q A α → (α → Procedure Q A β) → Procedure Q A β
  | .result a, f => f a
  | .ask q next, f => .ask q fun a => (next a).bind f

instance : Monad (Procedure Q A) where
  pure := .result
  bind := bind

/-- Answers every question in a monad. -/
def run {m : Type → Type} [Monad m] (answer : (q : Q) → m (A q)) : Procedure Q A α → m α
  | .result a => pure a
  | .ask q next => do (next (← answer q)).run answer

/-- Answers every question by a procedure that asks others. -/
def through {Q' : Type} {A' : Q' → Type} (answer : (q : Q) → Procedure Q' A' (A q)) :
    Procedure Q A α → Procedure Q' A' α
  | .result a => .result a
  | .ask q next => (answer q).bind fun a => (next a).through answer

@[simp] theorem bind_result (a : α) (f : α → Procedure Q A β) : (result a).bind f = f a := rfl

@[simp] theorem bind_ask (q : Q) (next : A q → Procedure Q A α) (f : α → Procedure Q A β) :
    (ask q next).bind f = .ask q fun a => (next a).bind f := rfl

end Procedure
end Courier
