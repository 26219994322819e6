import Courier.Postgres.Statement
import Courier.Tenant
import Courier.Text.Duration
/-
What one can ask of a store of tenants, whatever kind it is, and what can go
wrong. A record that is not there is reported as such, never as an empty one.
-/

namespace Courier

inductive RepositoryError
  | notFound
  /-- No answer came in time. -/
  | timeout (limit : Duration)
  | database (e : Postgres.Error)
  /-- A stored record cannot be read. -/
  | invalidData (text : String)
  | unavailable (text : String)
  deriving DecidableEq, Repr

namespace RepositoryError

def message : RepositoryError → String
  | .notFound => "Record not found"
  | .timeout d => "Repository call timed out after " ++ d.text
  | .database e => "PostgreSQL error: " ++ e.message
  | .invalidData t => "Invalid stored data: " ++ t
  | .unavailable t => "Repository unavailable: " ++ t

/-- What an error was caused by. -/
def causes : RepositoryError → List String
  | .database e => e.chain
  | .notFound | .timeout _ | .invalidData _ | .unavailable _ => []

def isNotFound : RepositoryError → Bool
  | .notFound => true
  | _ => false

end RepositoryError

/-- The counters that an application has. -/
inductive Stat
  | received
  | processed
  | sent
  deriving DecidableEq, Repr

namespace Stat

def name : Stat → String
  | .received => "received"
  | .processed => "processed"
  | .sent => "sent"

/-- The column that holds the counter. -/
def column (s : Stat) : String := "stat_" ++ s.name

end Stat

/-- What is asked of a store of tenants. -/
inductive RepositoryCall
  | userOf (token : String)
  | application (userKey token : String)
  | targets
  | target (id : String)
  | increment (token : String) (stat : Stat)
  | saveInput (token dump : String)
  | health
  deriving DecidableEq, Repr

/-- What a store answers if it can. -/
def RepositoryCall.Result : RepositoryCall → Type
  | .userOf _ => User
  | .application _ _ => Application
  | .targets => List Target
  | .target _ => Target
  | .increment _ _ | .saveInput _ _ | .health => Unit

def RepositoryCall.Answer (c : RepositoryCall) : Type := Except RepositoryError c.Result

end Courier
