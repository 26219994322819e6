import Courier.Repository
import Courier.Procedure
/-
Putting users, applications and targets together from a store. No question to
the store waits longer than a limit. On the way in, records that are disabled
count as missing, unless the request came by the submission route; on the way
out, the flags are reported and not enforced.
-/

namespace Courier

inductive ResolveError
  | userNotFound
  | applicationNotFound
  | targetNotFound (id : String)
  | repository (e : RepositoryError)
  deriving DecidableEq, Repr

namespace ResolveError

def message : ResolveError → String
  | .userNotFound => "No active user with supplied token"
  | .applicationNotFound => "No active application with supplied token"
  | .targetNotFound id => "Target not found: " ++ id
  | .repository e => "Repository error: " ++ e.message

def isNotFound : ResolveError → Bool
  | .repository _ => false
  | .userNotFound | .applicationNotFound | .targetNotFound _ => true

end ResolveError

/-- A target with the arguments that go with it for one application. -/
structure ResolvedTarget where
  target : Target
  args : TargetArgs
  deriving Repr, Inhabited

/-- What a store answers within a limit; nothing if no answer came. -/
abbrev RepositoryCall.Timely (c : RepositoryCall) : Type := Option c.Answer

/-- A course of action that asks a store, each question with a limit. -/
abbrev Lookups := Procedure RepositoryCall RepositoryCall.Timely

namespace Resolver

/-- How long a question to the store may take. -/
def defaultLimit : Duration := Duration.ofSeconds 5

/-- Asks the store; an answer that does not come in time is an error. -/
def ask (limit : Duration) (c : RepositoryCall) : Lookups (Except RepositoryError c.Result) :=
  .ask c fun
    | some a => .result a
    | none => .result (.error (.timeout limit))

/-- Asks the store for a record, `missing` being the error if there is none. -/
def lookup (limit : Duration) (c : RepositoryCall) (missing : ResolveError) :
    Lookups (Except ResolveError c.Result) := do
  match ← ask limit c with
  | .ok a => return .ok a
  | .error .notFound => return .error missing
  | .error e => return .error (.repository e)

/-- Counts for an application. -/
def increment (limit : Duration) (token : String) (stat : Stat) : Lookups (Except RepositoryError Unit) :=
  ask limit (.increment token stat)

/-- The user and the application of a token, on the way in. -/
def byToken (limit : Duration) (token : String) (viaSubmit : Bool) :
    Lookups (Except ResolveError (User × Application)) := do
  match ← lookup limit (.userOf token) .userNotFound with
  | .error e => return .error e
  | .ok user =>
    if !user.enable && !viaSubmit then return .error .userNotFound
    else
      match ← lookup limit (.application user.key token) .applicationNotFound with
      | .error e => return .error e
      | .ok application =>
        if !application.enable && !viaSubmit then return .error .applicationNotFound
        else return .ok (user, application)

/-- The application of a token, on the way out. -/
def application (limit : Duration) (userKey token : String) : Lookups (Except ResolveError Application) :=
  lookup limit (.application userKey token) .applicationNotFound

/-- The target of an application, with the arguments for it. -/
def target (limit : Duration) (a : Application) : Lookups (Except ResolveError ResolvedTarget) := do
  match ← lookup limit (.target a.target) (.targetNotFound a.target) with
  | .ok t => return .ok ⟨t, t.mergeArgs a.targetArgs⟩
  | .error e => return .error e

end Resolver
end Courier
