import Courier.Queue.Consumer
import Courier.Target.Registry
/-
Bringing the relay down in order: everyone is told to stop, the consumer
finishes what it has begun, the targets are shut down, and the store is closed
last. The two phases in between have limits, and what does not end in time is
given up.
-/

namespace Courier

structure ShutdownConfig where
  /-- Milliseconds that the consumer has. -/
  consumerLimit : Nat := 20000
  /-- Milliseconds that all targets together have. -/
  targetsLimit : Nat := 10000
  deriving DecidableEq, Repr, Inhabited

/-- The limits for a consumer that gives its tasks a grace in milliseconds. -/
def ShutdownConfig.forGrace (grace : Nat) : ShutdownConfig := { consumerLimit := grace + 5000 }

/-- How waiting for the consumer ends. -/
inductive ConsumerEnd
  | finished (r : ConsumerReport)
  /-- It broke down. -/
  | broken
  /-- It did not end in time, and was given up. -/
  | late
  deriving DecidableEq, Repr

def ConsumerEnd.report? : ConsumerEnd → Option ConsumerReport
  | .finished r => some r
  | .broken | .late => none

structure ShutdownResult where
  success : Bool
  consumer : Option ConsumerReport
  targetsStopped : Bool
  deriving DecidableEq, Repr, Inhabited

/-- What bringing the relay down asks for. -/
inductive ShutdownAsk
  /-- Tell everyone to stop. -/
  | signal
  | awaitConsumer (limit : Nat)
  /-- Shut all targets down; no answer if that takes longer than the limit. -/
  | stopTargets (limit : Nat)
  | closeStore
  deriving DecidableEq, Repr

def ShutdownAsk.Answer : ShutdownAsk → Type
  | .signal | .closeStore => Unit
  | .awaitConsumer _ => ConsumerEnd
  | .stopTargets _ => Option (Except RegistryError Unit)

abbrev ShutdownWork := Procedure ShutdownAsk ShutdownAsk.Answer

namespace Shutdown

/-- Whether the targets were all shut down without an error. -/
def stopped : Option (Except RegistryError Unit) → Bool
  | some (.ok ()) => true
  | _ => false

/-- What a shutdown reports. A consumer that left no report does not count against it. -/
def result (consumer : Option ConsumerReport) (targetsStopped : Bool) : ShutdownResult :=
  ⟨targetsStopped && consumer.all fun r => r.aborted == 0, consumer, targetsStopped⟩

/-- The targets, and then the store. -/
def finish (c : ShutdownConfig) (consumer : Option ConsumerReport) : ShutdownWork ShutdownResult :=
  .ask (.stopTargets c.targetsLimit) fun t =>
    .ask .closeStore fun _ => .result (result consumer (stopped t))

/-- Brings the relay down; `hasConsumer` is whether there is a consumer to wait for. -/
def execute (c : ShutdownConfig) (hasConsumer : Bool) : ShutdownWork ShutdownResult :=
  .ask .signal fun _ =>
    if hasConsumer then .ask (.awaitConsumer c.consumerLimit) fun e => finish c e.report? else finish c none

end Shutdown
end Courier
