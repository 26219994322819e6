import Courier.Queue.Task
/-
The queue in memory. Tasks wait in order; a task that is to be tried again is
kept aside until it is due; a task that was handed out stays in flight, under
its identifier, until it is settled.
-/

namespace Courier

open Calendar (Moment)

/-- A task that was handed out, with the mark under which the queue knows it. -/
structure Delivery where
  task : Task
  receipt : String
  deriving DecidableEq, Repr, Inhabited

/-- How many tasks a queue holds, by state. -/
structure QueueStats where
  backend : String := ""
  pending : Nat := 0
  scheduled : Nat := 0
  inflight : Nat := 0
  dead : Nat := 0
  deriving DecidableEq, Repr, Inhabited

/-- Times are counted in milliseconds from some start. -/
abbrev Time := Nat

structure MemoryQueue where
  pending : List Task := []
  /-- Tasks with the time at which they are due, in the order in which they were put aside. -/
  scheduled : List (Time × Task) := []
  inflight : List Task := []
  dead : List DeadLetter := []
  deriving Repr, Inhabited

namespace MemoryQueue

/-- The name of this kind of queue. -/
def backendName : String := "memory"

def enqueue (q : MemoryQueue) (t : Task) : MemoryQueue := { q with pending := q.pending ++ [t] }

/-- Moves the tasks that are due behind the waiting ones. -/
def promote (q : MemoryQueue) (now : Time) : MemoryQueue :=
  { q with
    pending := q.pending ++ (q.scheduled.filter fun s => s.1 ≤ now).map (·.2)
    scheduled := q.scheduled.filter fun s => !(s.1 ≤ now) }

/-- No longer holds the task with an identifier in flight. -/
def release (q : MemoryQueue) (id : Uuid) : MemoryQueue :=
  { q with inflight := q.inflight.filter fun t => t.id ≠ id }

/-- Hands out the first waiting task. -/
def dequeue (q : MemoryQueue) (now : Time) : MemoryQueue × Option Delivery :=
  let q := q.promote now
  match q.pending with
  | [] => (q, none)
  | t :: r => ({ q.release t.id with pending := r, inflight := (q.release t.id).inflight ++ [t] }, some ⟨t, t.id.text⟩)

/-- A task that was handled is gone. -/
def ack (q : MemoryQueue) (d : Delivery) : MemoryQueue := q.release d.task.id

/-- Puts a task aside to be tried again after a wait. -/
def retry (q : MemoryQueue) (d : Delivery) (now wait : Time) : MemoryQueue :=
  { q.release d.task.id with scheduled := q.scheduled ++ [(now + wait, d.task.next)] }

/-- Gives up a task. -/
def deadLetter (q : MemoryQueue) (d : Delivery) (reason : String) (at_ : Moment) : MemoryQueue :=
  { q.release d.task.id with dead := q.dead ++ [⟨d.task, reason, at_⟩] }

/-- Puts the tasks in flight back; tells how many there were. -/
def recover (q : MemoryQueue) : MemoryQueue × Nat :=
  ({ q with pending := q.pending ++ q.inflight, inflight := [] }, q.inflight.length)

def stats (q : MemoryQueue) : QueueStats :=
  ⟨backendName, q.pending.length, q.scheduled.length, q.inflight.length, q.dead.length⟩

end MemoryQueue
end Courier
