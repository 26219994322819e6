import Courier.Repository.Postgres
/-
A PostgreSQL database that plays by a script: it writes down the statements it
gets and answers each with the next reply, or with a refusal of the connection.
-/

namespace Courier.Rehearsal

open Postgres (Statement Reply Error)

structure Database where
  /-- The replies that are left. -/
  replies : List (Except Error Reply) := []
  /-- What a connection is refused with. -/
  refusal : Option Error := none
  closed : Bool := false
  /-- The statements since they were taken last, the last one first. -/
  heard : List Statement := []

namespace Database

/-- The reply to a statement when none is left. -/
def usual : Statement → Reply
  | .greet => .rows [[.text "ok"]]
  | _ => .rows []

def respond (d : Database) : (c : Postgres.Call) → c.Answer × Database
  | .connect => (match d.refusal with
    | some e => .error e
    | none => .ok (), d)
  | .close => ((), { d with closed := true })
  | .run s =>
    if d.closed then (.error .closed, d)
    else
      let d := { d with heard := s :: d.heard }
      match d.replies with
      | r :: rest => (r, { d with replies := rest })
      | [] => (.ok (usual s), d)

/-- Follows a course of questions. -/
def follow {α : Type} (p : Postgres.Calls α) : StateM Database α := p.run fun c => modifyGet (respond · c)

/-- Sets what is answered from now on. -/
def prepare (replies : List (Except Error Reply)) : StateM Database Unit := modify fun d => { d with replies }

/-- The statements heard since they were taken last. -/
def takeHeard : StateM Database (List Statement) := modifyGet fun d => (d.heard.reverse, { d with heard := [] })

end Database
end Courier.Rehearsal
