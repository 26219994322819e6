import Courier.Calendar.FreeForm
import Courier.Configuration.Loading
import Courier.Queue.Backend
import Courier.Repository.Backend
import Courier.Service
import Courier.Shutdown
/-
The relay from its start to its end. The store is opened and all targets are
started before the first task is taken; once they run, whatever happens, the
relay is brought down in order.
-/

namespace Courier

/-- Why the relay fails. -/
inductive RelayError
  | configuration (e : Configuration.Failure)
  | pool (e : Postgres.PoolError)
  | repository (e : RepositoryError)
  | registry (e : RegistryError)
  | queue (e : QueueError)
  /-- The server cannot listen. -/
  | server (reason : String)

namespace RelayError

def message : RelayError → String
  | .configuration e => e.message
  | .pool e => e.message
  | .repository e => e.message
  | .registry e => e.message
  | .queue e => e.message
  | .server reason => reason

/-- What a failure was caused by, the nearest cause first. -/
def causes : RelayError → List String
  | .configuration _ | .server _ => []
  | .pool e => e.causes
  | .repository e => e.causes
  | .registry e => e.causes
  | .queue e => e.causes

/-- A text with something before its first line and before each other line. -/
def indented (first other text : String) : String := first ++ String.intercalate ("\n" ++ other) (text.splitOn "\n")

/-- The causes of a failure, one below the other; they are numbered if there are several. -/
def causeLines : List String → List String
  | [] => []
  | [c] => [indented "    " "    " c]
  | cs => cs.zipIdx.map fun (c, n) =>
    indented ("".pushn ' ' (5 - (toString n).length) ++ toString n ++ ": ") "       " c

/-- What is told of a failure. -/
def report (e : RelayError) : String :=
  let head := "Error: " ++ e.message
  let causes := match causeLines e.causes with
    | [] => ""
    | ls => "\n\nCaused by:\n" ++ String.intercalate "\n" ls
  head ++ causes ++ "\n"

end RelayError

/-- What the relay asks for. -/
inductive RelayAsk
  | openStore (b : RepositoryBackend)
  | store (c : RepositoryCall)
  /-- Make targets, none of which is loaded yet. -/
  | makeTargets (ts : List Target)
  | registry (q : RegistryStep)
  | openQueue (b : QueueBackend)
  | startConsumer (c : ConsumerConfig)
  /-- Answer requests until told to stop. -/
  | serve (s : Service) (host : String) (port : Nat)
  /-- Wait until told to stop. -/
  | awaitStop
  | shutdown (q : ShutdownAsk)

def RelayAsk.Answer : RelayAsk → Type
  | .openStore _ => Except Postgres.PoolError Unit
  | .store c => c.Answer
  | .makeTargets _ | .startConsumer _ | .awaitStop => Unit
  | .registry q => q.Answer
  | .openQueue _ => Except QueueError Unit
  | .serve _ _ _ => Except String Unit
  | .shutdown q => q.Answer

abbrev RelayWork := Procedure RelayAsk RelayAsk.Answer

/-- A relay that is about to start. -/
structure Relay where
  settings : Settings
  /-- Whether clients are told less of what went wrong. -/
  production : Bool
  /-- The time from which dates in custom formats are reckoned. -/
  now : Calendar.Moment

namespace Relay

/-- The relay that the files of the folder `config` and some variables ask for. -/
def load (files : Configuration.Folder) (vs : Configuration.Variables) (now : Calendar.Moment) :
    Except RelayError Relay := do
  let settings ← (Settings.load files vs).mapError .configuration
  return { settings, now, production := Refusal.isProduction ((Settings.environment files vs).lookup "RUN_MODE") }

def ask (q : RelayAsk) : RelayWork q.Answer := Procedure.query (A := RelayAsk.Answer) q

/-- Work of the registry as a part of the relay's. -/
def withRegistry {α : Type} (p : RegistryWork α) : RelayWork α := p.through fun q => ask (.registry q)

/-- Loads and starts the targets of a registry; those that were begun with are shut down if one fails. -/
def startAll (r : Registry) : RelayWork (Except RegistryError Unit) := do
  match ← withRegistry r.loadAll with
  | .error e =>
    let _ ← withRegistry r.shutdownAll
    return .error e
  | .ok () => withRegistry r.runAll

/-- Starts all targets of the store that are enabled. -/
def startTargets : RelayWork (Except RelayError Unit) := do
  match ← ask (.store .targets) with
  | .error e => return .error (.repository e)
  | .ok (all : List Target) =>
    let enabled := all.filter (·.enable)
    match Registry.kinds enabled with
    | .error e => return .error (.registry e)
    | .ok kinds =>
      let _ ← ask (.makeTargets enabled)
      return (← startAll ⟨Registry.ofList kinds⟩).mapError .registry

/-- Brings the relay down; `hasConsumer` is whether a consumer runs. -/
def bringDown (r : Relay) (hasConsumer : Bool) : RelayWork ShutdownResult :=
  (Shutdown.execute (.forGrace (1000 * r.settings.worker.graceSeconds)) hasConsumer).through fun q =>
    ask (.shutdown q)

/-- The service that answers requests. -/
def service (r : Relay) (queue : QueueBackend) : Service where
  ingress := { date := Calendar.FreeForm.unixSeconds? r.now }
  repositoryName := (RepositoryBackend.ofSettings r.settings).name
  queueName := queue.name
  bodyLimit := r.settings.server.bodyLimit
  production := r.production

/-- Answers requests, or waits, until told to stop. -/
def serve (r : Relay) (queue : QueueBackend) : RelayWork (Except RelayError Unit) := do
  if r.settings.server.enabled then
    return (← ask (.serve (r.service queue) r.settings.server.host r.settings.server.port)).mapError .server
  else
    let _ ← ask .awaitStop
    return .ok ()

/-- Opens the queue that settings ask for. -/
def openQueue (s : Settings) : RelayWork (Except QueueError QueueBackend) := do
  match QueueBackend.ofSettings s with
  | .error e => return .error e
  | .ok b => return (← ask (.openQueue b)).map fun _ => b

/-- What a relay does once its targets run. -/
def work (r : Relay) : RelayWork (Except RelayError Unit) := do
  match ← openQueue r.settings with
  | .error e =>
    let _ ← r.bringDown false
    return .error (.queue e)
  | .ok queue =>
    let consumes := r.settings.worker.enabled
    if consumes then
      let _ ← ask (.startConsumer r.settings.worker.consumer)
    let served ← r.serve queue
    let _ ← r.bringDown consumes
    return served

/-- What a relay does from its start to its end. -/
def run (r : Relay) : RelayWork (Except RelayError Unit) := do
  match ← ask (.openStore (.ofSettings r.settings)) with
  | .error e => return .error (.pool e)
  | .ok () =>
    match ← startTargets with
    | .error e =>
      let _ ← ask (.shutdown .closeStore)
      return .error e
    | .ok () => r.work

end Relay
end Courier
