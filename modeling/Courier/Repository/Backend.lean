import Courier.Repository.Postgres
import Courier.Repository.Static
import Courier.Settings
/-
The kinds of stores of tenants, and which one settings ask for.
-/

namespace Courier

inductive RepositoryBackend
  | static (r : StaticRepository)
  | postgres (url : String)
  deriving Repr

namespace RepositoryBackend

def name : RepositoryBackend → String
  | static _ => StaticRepository.name
  | postgres _ => PostgresRepository.name

/-- The database if it is enabled; else the tenants that stand in the settings. -/
def ofSettings (s : Settings) : RepositoryBackend :=
  if s.database.enabled then postgres s.database.url else static ⟨s.users, s.targets⟩

end RepositoryBackend
end Courier
