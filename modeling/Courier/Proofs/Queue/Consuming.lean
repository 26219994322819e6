import Courier.Proofs.Queue.Memory
import Courier.Queue.Consumer
/-
A queue in memory and the consumers that run on it, one after another. At any
time tasks may be put on the queue, a handler may return anything or break down,
the consumer may be told to stop, and the time that it waits for its handlers may
be over, so that they are aborted. Whatever is asked of the queue may fail before it takes effect. The times
at which the queue is asked, and the numbers that are drawn, are left open.

What happened is noted beside the queue: the tasks put on it, the tasks that were
acknowledged, and what handlers returned.
-/

namespace Courier.Consumption

open Calendar (Moment)
open Number (Binary64)
open Consumer (Job Event Dequeued)

/-- What a handler returned for a task, and the limit that its consumer had. -/
structure Handled where
  task : Task
  result : Except TaskFailure Unit
  maxRetries : Nat

structure Site where
  queue : MemoryQueue := {}
  consumer : Option Consumer := none
  enqueued : List Task := []
  acknowledged : List Task := []
  handled : List Handled := []

/-- Where a task can be. -/
inductive Place
  | pending | scheduled | inflight | dead | acknowledged
  deriving DecidableEq, Repr

namespace Site

/-- The tasks at a place. -/
def at_ (s : Site) : Place → List Task
  | .pending => s.queue.pending
  | .scheduled => s.queue.scheduled.map (·.2)
  | .inflight => s.queue.inflight
  | .dead => s.queue.dead.map (·.task)
  | .acknowledged => s.acknowledged

/-- Whether no consumer is running. -/
def isFree (s : Site) : Prop := ∀ c, s.consumer = some c → c.phase = .finished

/-- Settles a delivery: the queue does it, and an acknowledgement is noted. -/
def settle (s : Site) (now : Time) (clock : Moment) (d : Delivery) (st : Settlement) : Site :=
  { s with
    queue := (s.queue.answer now clock (st.call d)).1
    acknowledged := if st = .ack then d.task :: s.acknowledged else s.acknowledged }

end Site

/-- The events by which a consumer asks nothing of the queue and hears from no handler. -/
def Quiet : Event → Prop
  | .stop | .place | .waited | .broken _ | .cancelled _ | .joined _ | .drained | .graceOver => True
  | .recovered | .dequeued _ | .handled _ _ | .settled _ => False

/-- One step. `draw` gives the numbers by which waits are spread. -/
inductive Step (s : Site) : Site → Prop
  | enqueue {t : Task} (fresh : t.id ∉ s.enqueued.map (·.id)) :
    Step s { s with queue := s.queue.enqueue t, enqueued := t :: s.enqueued }
  /-- Tasks in flight are in no order. -/
  | shuffle {inflight : List Task} (perm : inflight.Perm s.queue.inflight) :
    Step s { s with queue := { s.queue with inflight } }
  | start (config : ConsumerConfig) (places : 1 ≤ config.concurrency) (free : s.isFree) :
    Step s { s with consumer := some { config } }
  | quiet {c c' : Consumer} (draw) {e : Event} (running : s.consumer = some c) (he : Quiet e)
    (next : c.step draw e = some c') : Step s { s with consumer := some c' }
  | recover {c c' : Consumer} (draw) (running : s.consumer = some c) (next : c.step draw .recovered = some c') :
    Step s { s with consumer := some c', queue := s.queue.recover.1 }
  | recoverFails {c c' : Consumer} (draw) (running : s.consumer = some c) (next : c.step draw .recovered = some c') :
    Step s { s with consumer := some c' }
  | dequeue {c c' : Consumer} (draw) (now : Time) (running : s.consumer = some c)
    (next : c.step draw (.dequeued (.ofAnswer (.ok (s.queue.dequeue now).2))) = some c') :
    Step s { s with consumer := some c', queue := (s.queue.dequeue now).1 }
  | dequeueFails {c c' : Consumer} (draw) (e : QueueError) (running : s.consumer = some c)
    (next : c.step draw (.dequeued (.ofAnswer (.error e))) = some c') : Step s { s with consumer := some c' }
  | handle {c c' : Consumer} (draw) {j : Job} (result : Except TaskFailure Unit) (running : s.consumer = some c)
    (job : c.job? j.serial = some j) (next : c.step draw (.handled j.serial result) = some c') :
    Step s
      { s with consumer := some c', handled := ⟨j.delivery.task, result, c.config.maxRetries⟩ :: s.handled }
  | settle {c c' : Consumer} (draw) {j : Job} {st : Settlement} (now : Time) (clock : Moment)
    (running : s.consumer = some c) (job : c.job? j.serial = some j) (stage : j.stage = .settling st)
    (next : c.step draw (.settled j.serial) = some c') :
    Step s { s.settle now clock j.delivery st with consumer := some c' }
  | settleFails {c c' : Consumer} (draw) {j : Job} (running : s.consumer = some c)
    (job : c.job? j.serial = some j) (next : c.step draw (.settled j.serial) = some c') :
    Step s { s with consumer := some c' }

/-- The states that are reached from an empty queue. -/
inductive Reachable : Site → Prop
  | start : Reachable {}
  | step {s s' : Site} (h : Reachable s) (hstep : Step s s') : Reachable s'

end Courier.Consumption
