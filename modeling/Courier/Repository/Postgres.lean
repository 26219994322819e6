import Courier.Postgres.Pool
import Courier.Repository
/-
The store of tenants in a PostgreSQL database.
-/

namespace Courier.PostgresRepository

open Postgres (Statement Row RowReader Calls Call)

def name : String := "postgres"

/-- Runs a statement. -/
def run (s : Statement) : Calls (Except RepositoryError Postgres.Reply) := do
  return (← Procedure.query (A := Call.Answer) (.run s)).mapError .database

/-- All rows that a statement selects. -/
def all {α : Type} (s : Statement) (reader : RowReader α) : Calls (Except RepositoryError (List α)) := do
  return (← run s).bind fun r => (r.allRows.mapM reader.read).mapError .database

/-- The first row that a statement selects. -/
def first {α : Type} (s : Statement) (reader : RowReader α) : Calls (Except RepositoryError α) := do
  return (← run s).bind fun r =>
    match r.allRows with
    | [] => .error .notFound
    | row :: _ => (reader.read row).mapError .database

/-- Changes a row, which must be there. -/
def change (s : Statement) : Calls (Except RepositoryError Unit) := do
  return (← run s).bind fun r => if r.count = 0 then .error .notFound else .ok ()

/-- An application as it was stored. -/
def stored (a : Except String Application) : Except RepositoryError Application := a.mapError .invalidData

def applicationsOf (userKey : String) : Calls (Except RepositoryError (List Application)) := do
  return (← all (.applicationsOf userKey) Postgres.applicationRow).bind fun as => as.mapM stored

/-- What the store answers. -/
def answer : (c : RepositoryCall) → Calls c.Answer
  | .userOf token => do
    match ← first (.userOf token) Postgres.userRow with
    | .error e => return .error e
    | .ok (key, enable) => return (← applicationsOf key).map fun applications => { key, enable, applications }
  | .application userKey token => do
    return (← first (.application token userKey) Postgres.applicationRow).bind stored
  | .targets => all .targets Postgres.targetRow
  | .target id => first (.target id) Postgres.targetRow
  | .increment token stat => change (.increment stat.column token)
  | .saveInput token dump => change (.saveInput token dump)
  | .health => do return (← Postgres.ping).mapError .database

end Courier.PostgresRepository
