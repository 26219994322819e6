import Courier.Queue
import Courier.Queue.Backoff
/-
The consumer of a queue. It takes tasks as long as a place is free, has each of
them handled on its own, and settles it afterwards: done, to be tried again, or
given up. When it is told to stop, it takes no more tasks and waits for those
being handled, for some time; then it aborts what is left. Processing goes on
beside the consumer, which takes note of its end some time later: whenever it
looks for a task, and while it waits for the rest.

The consumer is a machine: a state, and the events that can happen to it in
that state. Which of the possible events happens next is not its choice.
-/

namespace Courier

open Number (Binary64)

/-- How a handler fails. -/
inductive TaskFailure
  /-- For now; worth another attempt. -/
  | retry (reason : String)
  /-- For good. -/
  | fatal (reason : String)
  deriving DecidableEq, Repr

def TaskFailure.reason : TaskFailure → String
  | .retry r | .fatal r => r

/-- What becomes of a task that was handled. -/
inductive Settlement
  | ack
  | retry (wait : Nat)
  | deadLetter (reason : String)
  deriving DecidableEq, Repr

namespace Settlement

/-- The name of a settlement in counters. -/
def action : Settlement → String
  | .ack => "ack"
  | .retry _ => "retry"
  | .deadLetter _ => "dead_letter"

/-- What is asked of the queue to settle a delivery. -/
def call (s : Settlement) (d : Delivery) : QueueCall :=
  match s with
  | .ack => .ack d
  | .retry wait => .retry d wait
  | .deadLetter reason => .deadLetter d reason

end Settlement

structure ConsumerConfig where
  /-- How many tasks are handled at a time. -/
  concurrency : Nat := 8
  maxRetries : Nat := 5
  /-- Milliseconds between two looks into an empty queue. -/
  poll : Nat := 500
  /-- Milliseconds that tasks have to finish after the signal to stop. -/
  grace : Nat := 15000
  backoff : Backoff := {}
  deriving Repr, Inhabited

/-- What becomes of a task after its handler has returned. -/
def ConsumerConfig.settlement (c : ConsumerConfig) (draw : Binary64 → Binary64 → Binary64) (t : Task) :
    Except TaskFailure Unit → Settlement
  | .ok () => .ack
  | .error (.retry reason) =>
    if t.attempts < c.maxRetries then .retry (c.backoff.delay draw (t.attempts + 1))
    else .deadLetter ("retries exhausted: " ++ reason)
  | .error (.fatal reason) => .deadLetter reason

/-- What happened while a consumer ran. -/
structure ConsumerReport where
  started : Nat := 0
  /-- How many tasks the consumer had not seen come to their end when the time was over. -/
  aborted : Nat := 0
  deriving DecidableEq, Repr, Inhabited

namespace Consumer

inductive Phase
  /-- Asks the queue for tasks left over. -/
  | starting
  /-- Waits for a free place. -/
  | ready
  /-- Has a place and asks the queue for a task. -/
  | dequeuing
  /-- Waits for some milliseconds before it asks again. -/
  | waiting (ms : Nat)
  /-- Was told to stop; waits for the tasks being handled. -/
  | draining
  /-- Has counted the tasks that are left; has them aborted, and waits for that. -/
  | aborting
  | finished
  deriving DecidableEq, Repr

inductive Stage
  | handling
  | settling (s : Settlement)
  deriving DecidableEq, Repr

/-- A delivery being processed, under a number of its own. -/
structure Job where
  serial : Nat
  delivery : Delivery
  stage : Stage := .handling
  deriving DecidableEq, Repr

/-- What a queue says when asked for a task. -/
inductive Dequeued
  | task (d : Delivery)
  | empty
  | failed
  deriving DecidableEq, Repr

def Dequeued.ofAnswer : Except QueueError (Option Delivery) → Dequeued
  | .ok (some d) => .task d
  | .ok none => .empty
  | .error _ => .failed

inductive Event
  | recovered
  | stop
  /-- A free place was taken. -/
  | place
  | dequeued (d : Dequeued)
  /-- The wait before the next look is over. -/
  | waited
  | handled (serial : Nat) (result : Except TaskFailure Unit)
  /-- The handler broke down without a result. -/
  | broken (serial : Nat)
  /-- The queue was asked to settle, whatever it answered. -/
  | settled (serial : Nat)
  /-- The processing of a delivery was aborted. -/
  | cancelled (serial : Nat)
  /-- The consumer sees that the processing of a delivery is over. -/
  | joined (serial : Nat)
  | drained
  | graceOver

end Consumer

/-- A consumer: its phase, the deliveries it processes, and what it counts. -/
structure Consumer where
  config : ConsumerConfig
  phase : Consumer.Phase := .starting
  jobs : List Consumer.Job := []
  /-- The deliveries whose processing is over, which the consumer has not seen yet. -/
  unjoined : List Nat := []
  backoff : Backoff.Counter := ⟨config.backoff, 0⟩
  report : ConsumerReport := {}
  deriving Repr, Inhabited

namespace Consumer

/-- Whether another delivery can be processed. -/
def hasPlace (c : Consumer) : Bool := c.jobs.length < c.config.concurrency

def job? (c : Consumer) (serial : Nat) : Option Job := c.jobs.find? fun j => j.serial == serial

/-- The consumer when a job is over. -/
def dropJob (c : Consumer) (serial : Nat) : Consumer :=
  { c with jobs := c.jobs.filter fun j => j.serial ≠ serial, unjoined := c.unjoined ++ [serial] }

/-- The deliveries whose end the consumer has not seen. -/
def left (c : Consumer) : List Nat := c.jobs.map (·.serial) ++ c.unjoined

theorem jobs_of_left {c : Consumer} (h : c.left = []) : c.jobs = [] :=
  List.map_eq_nil_iff.1 (List.append_eq_nil_iff.1 h).1

/-- Whether the consumer takes no more tasks and waits for those that are left. -/
def isLeaving (c : Consumer) : Bool := c.phase == .draining || c.phase == .aborting

theorem isLeaving_iff {c : Consumer} : c.isLeaving = true ↔ c.phase = .draining ∨ c.phase = .aborting := by
  simp [isLeaving]

/-- The consumer with a job in another stage. -/
def setStage (c : Consumer) (serial : Nat) (s : Stage) : Consumer :=
  { c with jobs := c.jobs.map fun j => if j.serial = serial then { j with stage := s } else j }

/-- What an event makes of a consumer; nothing if it cannot happen now. -/
def step (draw : Binary64 → Binary64 → Binary64) (c : Consumer) : Event → Option Consumer
  | .recovered => if c.phase = .starting then some { c with phase := .ready } else none
  | .stop =>
    match c.phase with
    | .ready | .waiting _ => some { c with phase := .draining }
    | _ => none
  | .place => if c.phase = .ready ∧ c.hasPlace then some { c with phase := .dequeuing } else none
  | .dequeued answer =>
    if c.phase ≠ .dequeuing then none
    else
      match answer with
      | .task d =>
        some
          { c with
            phase := .ready
            jobs := c.jobs ++ [⟨c.report.started, d, .handling⟩]
            unjoined := []
            backoff := c.backoff.reset
            report := { c.report with started := c.report.started + 1 } }
      | .empty => some { c with phase := .waiting c.config.poll }
      | .failed =>
        let (backoff, wait) := c.backoff.next draw
        some { c with phase := .waiting wait, backoff }
  | .waited =>
    match c.phase with
    | .waiting _ => some { c with phase := .ready, unjoined := [] }
    | _ => none
  | .handled serial result =>
    match c.job? serial with
    | some ⟨_, d, .handling⟩ => some (c.setStage serial (.settling (c.config.settlement draw d.task result)))
    | _ => none
  | .broken serial =>
    match c.job? serial with
    | some ⟨_, _, .handling⟩ => some (c.dropJob serial)
    | _ => none
  | .settled serial =>
    match c.job? serial with
    | some ⟨_, _, .settling _⟩ => some (c.dropJob serial)
    | _ => none
  | .cancelled serial => if c.phase = .aborting ∧ (c.job? serial).isSome then some (c.dropJob serial) else none
  | .joined serial =>
    if c.isLeaving ∧ serial ∈ c.unjoined then some { c with unjoined := c.unjoined.erase serial } else none
  | .drained => if c.isLeaving ∧ c.left = [] then some { c with phase := .finished } else none
  | .graceOver =>
    if c.phase = .draining ∧ c.left ≠ [] then
      some { c with phase := .aborting, report := { c.report with aborted := c.left.length } }
    else none

end Consumer
end Courier
