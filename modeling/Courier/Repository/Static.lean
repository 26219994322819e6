import Courier.Repository
/-
The store of tenants that stand in the configuration. It counts nothing and
saves nothing.
-/

namespace Courier

structure StaticRepository where
  users : List User := []
  targets : List Target := []
  deriving Repr, Inhabited

namespace StaticRepository

def name : String := "static"

/-- The user to whom a token belongs; of several users the last one. -/
def user? (r : StaticRepository) (token : String) : Option User :=
  r.users.reverse.find? fun u => u.applications.any fun a => a.token == token

/-- The application of a user with a token; of several the first one. -/
def application? (r : StaticRepository) (userKey token : String) : Option Application :=
  (r.users.filter fun u => u.key == userKey).findSome? fun u => u.application? token

/-- The target with an identifier; of several the first one. -/
def target? (r : StaticRepository) (id : String) : Option Target := r.targets.find? fun t => t.id == id

/-- A record, or word that there is none. -/
def found {α : Type} : Option α → Except RepositoryError α
  | some a => .ok a
  | none => .error .notFound

def answer (r : StaticRepository) : (c : RepositoryCall) → c.Answer
  | .userOf token => found (r.user? token)
  | .application key token => found (r.application? key token)
  | .targets => .ok r.targets
  | .target id => found (r.target? id)
  | .increment _ _ | .saveInput _ _ | .health => .ok ()

end StaticRepository
end Courier
