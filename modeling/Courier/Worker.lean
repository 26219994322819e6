import Courier.Queue.Consumer
import Courier.Target.Registry
import Courier.Tenant.Resolver
/-
The worker makes a delivery of a task: it reads the message, looks up the
application and its target, encrypts what the application wants encrypted, and
hands the message to the target. It never tries again by itself; it says
whether another attempt is worth it.
-/

namespace Courier

/-- Why a task was not delivered. -/
inductive TaskError
  | malformed (text : String)
  | resolution (e : ResolveError)
  | encryption (e : EncryptionError)
  | delivery (e : RegistryError)
  | unsupportedKind (name : String)
  deriving DecidableEq, Repr

namespace TaskError

def message : TaskError → String
  | .malformed text => "Malformed task: " ++ text
  | .resolution e => "Resolution failed: " ++ e.message
  | .encryption e => "Encryption failed: " ++ e.message
  | .delivery e => "Delivery failed: " ++ e.message
  | .unsupportedKind name => TargetKind.unsupported name

/-- Whether another attempt is worth it: records and targets come and go, while
a task and the rules of encryption stay as they are. -/
def isRetryable : TaskError → Bool
  | .resolution _ | .delivery _ => true
  | .malformed _ | .encryption _ | .unsupportedKind _ => false

/-- The error as the queue is told of it. -/
def failure (e : TaskError) : TaskFailure := if e.isRetryable then .retry e.message else .fatal e.message

end TaskError

/-- Why a message was dropped on purpose. -/
inductive SkipReason
  | applicationMissing
  | applicationDisabled
  | targetMissing
  | targetDisabled
  deriving DecidableEq, Repr

def SkipReason.name : SkipReason → String
  | .applicationMissing => "application_missing"
  | .applicationDisabled => "application_disabled"
  | .targetMissing => "target_missing"
  | .targetDisabled => "target_disabled"

inductive TaskOutcome
  | delivered
  | skipped (reason : SkipReason)
  deriving DecidableEq, Repr

/-- How a task ended, as it is counted. -/
inductive TaskRecord
  | delivered
  | skipped
  | retryable
  | fatal
  deriving DecidableEq, Repr

namespace TaskRecord

def of : Except TaskError TaskOutcome → TaskRecord
  | .ok .delivered => .delivered
  | .ok (.skipped _) => .skipped
  | .error e => if e.isRetryable then .retryable else .fatal

def name : TaskRecord → String
  | .delivered => "delivered"
  | .skipped => "skipped"
  | .retryable => "retryable"
  | .fatal => "fatal"

end TaskRecord

/-- How many tasks a worker handled. -/
structure WorkerStats where
  delivered : Nat := 0
  skipped : Nat := 0
  failed : Nat := 0
  deriving DecidableEq, Repr, Inhabited

def WorkerStats.add (s : WorkerStats) : TaskRecord → WorkerStats
  | .delivered => { s with delivered := s.delivered + 1 }
  | .skipped => { s with skipped := s.skipped + 1 }
  | .retryable | .fatal => { s with failed := s.failed + 1 }

/-- What a worker asks for. -/
inductive WorkerAsk
  | store (c : RepositoryCall)
  | deliver (target : String) (m : Message) (args : TargetArgs)
  | record (r : TaskRecord)

def WorkerAsk.Answer : WorkerAsk → Type
  | .store c => c.Timely
  | .deliver _ _ _ => Except RegistryError Unit
  | .record _ => Unit

abbrev WorkerWork := Procedure WorkerAsk WorkerAsk.Answer

structure Worker where
  cipher : Cipher
  /-- How long a question to the store may take. -/
  limit : Duration := Resolver.defaultLimit

namespace Worker

/-- A lookup as part of the work. -/
def look {α : Type} (p : Lookups α) : WorkerWork α := p.through fun c => Procedure.query (WorkerAsk.store c)

/-- What a lookup that failed means: on the submission route, a record that is missing is a reason to drop the message. -/
def missing (viaSubmit : Bool) (reason : SkipReason) (e : ResolveError) : Except TaskError TaskOutcome :=
  if e.isNotFound && viaSubmit then .ok (.skipped reason) else .error (.resolution e)

/-- Hands a message to a target that was looked up, encrypted after a policy. -/
def send (w : Worker) (m : Message) (a : Application) (r : ResolvedTarget) : WorkerWork (Except TaskError TaskOutcome) :=
  if (TargetKind.ofName? r.target.kind).isNone then .result (.error (.unsupportedKind r.target.kind))
  else
    match Encryption.encrypt w.cipher a.encryptionPolicy m with
    | .error e => .result (.error (.encryption e))
    | .ok (encrypted, _) =>
      .ask (.deliver r.target.id encrypted r.args) fun
        | .error e => .result (.error (.delivery e))
        | .ok () =>
          if m.isViaSubmit then .result (.ok .delivered)
          else (look (Resolver.increment w.limit m.token .sent)).bind fun _ => .result (.ok .delivered)

/-- Delivers a message. -/
def process (w : Worker) (m : Message) : WorkerWork (Except TaskError TaskOutcome) := do
  match ← look (Resolver.application w.limit m.user m.token) with
  | .error e => return missing m.isViaSubmit .applicationMissing e
  | .ok a =>
    if !a.enable then return .ok (.skipped .applicationDisabled)
    else
      match ← look (Resolver.target w.limit a) with
      | .error e => return missing m.isViaSubmit .targetMissing e
      | .ok r => if !r.target.enable then return .ok (.skipped .targetDisabled) else w.send m a r

/-- The message that a task carries. -/
def decode (t : Task) : Except TaskError Message :=
  if t.kind ≠ Task.messageKind then .error (.malformed ("unknown task kind: " ++ t.kind))
  else (Message.decode t.payload).mapError .malformed

/-- Handles a task and counts how it ended. -/
def handle (w : Worker) (t : Task) : WorkerWork (Except TaskFailure Unit) := do
  let r ← match decode t with
    | .ok m => w.process m
    | .error e => Procedure.result (.error e)
  let _ ← Procedure.query (WorkerAsk.record (.of r))
  match r with
  | .ok _ => return .ok ()
  | .error e => return .error e.failure

end Worker
end Courier
