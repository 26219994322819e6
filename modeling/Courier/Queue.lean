import Courier.Queue.Memory
import Courier.Redis.Reply
/-
What one can ask of a queue, whatever kind it is, and what can go wrong. A
queue hands a task out at least once: a task that was handed out stays in
flight until it is settled.
-/

namespace Courier

open Calendar (Moment)

inductive QueueError
  | redis (e : Redis.Error)
  | serialization (text : String)
  | unavailable (text : String)
  deriving Repr

def QueueError.message : QueueError → String
  | .redis e => "Redis error: " ++ e.message
  | .serialization t => "Serialization error: " ++ t
  | .unavailable t => "Queue unavailable: " ++ t

/-- What an error was caused by. -/
def QueueError.causes : QueueError → List String
  | .redis e => [e.message]
  | .serialization t => [t]
  | .unavailable _ => []

/-- What is asked of a queue. -/
inductive QueueCall
  | enqueue (t : Task)
  | dequeue
  | ack (d : Delivery)
  /-- To be tried again after a wait in milliseconds. -/
  | retry (d : Delivery) (wait : Nat)
  | deadLetter (d : Delivery) (reason : String)
  | recover
  | stats
  deriving DecidableEq, Repr

/-- What a queue answers if it can. -/
def QueueCall.Result : QueueCall → Type
  | .dequeue => Option Delivery
  | .recover => Nat
  | .stats => QueueStats
  | .enqueue _ | .ack _ | .retry _ _ | .deadLetter _ _ => Unit

def QueueCall.Answer (c : QueueCall) : Type := Except QueueError c.Result

/-- What the queue in memory does when asked at a time. -/
def MemoryQueue.answer (q : MemoryQueue) (now : Time) (clock : Moment) : (c : QueueCall) → MemoryQueue × c.Result
  | .enqueue t => (q.enqueue t, ())
  | .dequeue => q.dequeue now
  | .ack d => (q.ack d, ())
  | .retry d wait => (q.retry d now wait, ())
  | .deadLetter d reason => (q.deadLetter d reason clock, ())
  | .recover => q.recover
  | .stats => (q, q.stats)

end Courier
