import Courier.Queue
import Courier.Redis.Store
/-
The queue on a Redis server. Waiting tasks, tasks in flight and dead letters
are lists, tasks that are to be tried again a set with the times at which they
are due. A task is kept in its written form, and that very text is the mark by
which an entry in flight is found again.

An operation is a course of requests. Between two of them other clients may do
anything, and a client may stop for good; so an operation is given as the stage
it has reached, which tells the next request and what follows each reply.
-/

namespace Courier

open Calendar (Moment)
open Redis (Command Request Reply Store)

/-- The keys under which one queue is kept. -/
structure RedisKeys where
  pending : String
  processing : String
  scheduled : String
  dead : String
  deriving DecidableEq, Repr

/-- The keys of the queue whose keys begin in a given way. -/
def RedisKeys.startingWith (start : String) : RedisKeys :=
  ⟨start ++ ":pending", start ++ ":processing", start ++ ":scheduled", start ++ ":dead"⟩

namespace RedisQueue

/-- The name of this kind of queue. -/
def backendName : String := "redis"

/-- The greatest number of due tasks that are put back at once. -/
def promotionLimit : Nat := 100

/-- A whole number cut to 64 bits with a sign. -/
def cut64 (n : Int) : Int := n.bmod (2 ^ 64)

/-- When a task is due that waits so many milliseconds from a moment on. -/
def dueTime (clock : Moment) (wait : Nat) : Int := cut64 (clock.unixMillis + cut64 wait)

/-- What is kept of an entry that is no task. -/
def unreadable (clock : Moment) (raw reason : String) : String :=
  (Json.Value.object
    [("failed_at", .text clock.text), ("raw", .text raw),
     ("reason", .text ("undecodable task envelope: " ++ reason))]).compact

/-- How far an operation has come. -/
inductive Stage : QueueCall → Type
  | adding (t : Task) : Stage (.enqueue t)
  /-- The due tasks are asked for. -/
  | listing : Stage .dequeue
  /-- A due task is taken out; whoever takes it out puts it back. -/
  | claiming (raw : String) (rest : List String) : Stage .dequeue
  | promoting (raw : String) (rest : List String) : Stage .dequeue
  | taking : Stage .dequeue
  /-- An entry that is no task is given up. -/
  | burying (raw reason : String) : Stage .dequeue
  | releasing (d : Delivery) : Stage (.ack d)
  | rescheduling (d : Delivery) (wait : Nat) : Stage (.retry d wait)
  | abandoning (d : Delivery) (reason : String) : Stage (.deadLetter d reason)
  /-- So many entries in flight were put back. -/
  | recovering (n : Nat) : Stage .recover
  | counting : Stage .stats

namespace Stage

def start : (c : QueueCall) → Stage c
  | .enqueue t => adding t
  | .dequeue => listing
  | .ack d => releasing d
  | .retry d wait => rescheduling d wait
  | .deadLetter d reason => abandoning d reason
  | .recover => recovering 0
  | .stats => counting

/-- The next request, made at a moment. -/
def request (keys : RedisKeys) (clock : Moment) {c : QueueCall} : Stage c → Request
  | adding t => .single (.push keys.pending t.encode)
  | listing => .single (.lowest keys.scheduled clock.unixMillis promotionLimit)
  | claiming raw _ => .single (.unscore keys.scheduled raw)
  | promoting raw _ => .single (.push keys.pending raw)
  | taking => .single (.move keys.pending keys.processing .right .left)
  | burying raw reason => .block [.remove keys.processing raw, .push keys.dead (unreadable clock raw reason)]
  | releasing d => .single (.remove keys.processing d.receipt)
  | rescheduling d wait =>
    .block [.remove keys.processing d.receipt, .score keys.scheduled (dueTime clock wait) d.task.next.encode]
  | abandoning d reason =>
    .block [.remove keys.processing d.receipt, .push keys.dead (DeadLetter.encode ⟨d.task, reason, clock⟩)]
  | recovering _ => .single (.move keys.processing keys.pending .right .right)
  | counting =>
    .batch [.length keys.pending, .size keys.scheduled, .length keys.processing, .length keys.dead]

/-- What follows a reply: another stage, or the end with an answer. -/
inductive Next (c : QueueCall)
  | stage (s : Stage c)
  | finished (answer : c.Answer)

/-- The stage after one due task is dealt with. -/
def promote : List String → Stage .dequeue
  | [] => taking
  | raw :: rest => claiming raw rest

/-- What is done with an entry that was taken off the list of waiting ones. -/
def taken (raw : String) : Next .dequeue :=
  match Task.decode raw with
  | .ok t => .finished (.ok (some ⟨t, raw⟩))
  | .error e => .stage (burying raw e)

/-- The end of an operation without an answer of its own. -/
def closed {c : QueueCall} (done : c.Result) : Next c := .finished (.ok done)

/-- The counts in the reply to four questions. -/
def counts (r : Reply) : Except Redis.Error QueueStats := do
  match r with
  | .list [p, s, i, d] =>
    return ⟨backendName, ← p.asCount, ← s.asCount, ← i.asCount, ← d.asCount⟩
  | r => throw (.mismatch "Response type not tuple compatible." r)

/-- The replies to a block of commands. -/
def blockDone (r : Reply) : Except Redis.Error Unit :=
  match r with
  | .list _ | .nothing => .ok ()
  | _ => .error .badBlock

/-- What follows a reply that reports no error, if it can be taken. -/
def receiveChecked (r : Reply) : {c : QueueCall} → Stage c → Except Redis.Error (Next c)
  | _, adding _ => .ok (closed ())
  | _, listing => r.asTexts.map fun due => .stage (promote due)
  | _, claiming raw rest => r.asInt.map fun n => .stage (if n = 1 then promoting raw rest else promote rest)
  | _, promoting _ rest => .ok (.stage (promote rest))
  | _, taking => r.asText?.map fun found =>
    match found with
    | some raw => taken raw
    | none => closed none
  | _, burying _ _ => (blockDone r).map fun _ => .stage taking
  | _, releasing _ => .ok (closed ())
  | _, rescheduling _ _ => (blockDone r).map fun _ => closed ()
  | _, abandoning _ _ => (blockDone r).map fun _ => closed ()
  | _, recovering n => r.asText?.map fun found =>
    match found with
    | some _ => .stage (recovering (n + 1))
    | none => closed n
  | _, counting => (counts r).map closed

/-- What follows a reply. An error ends the operation. -/
def receive {c : QueueCall} (s : Stage c) (r : Reply) : Next c :=
  match r.checked.bind fun r => receiveChecked r s with
  | .ok next => next
  | .error e => .finished (.error (.redis e))

/-- Goes on with a server that answers requests, for at most so many of them. -/
def runUpTo {m : Type → Type} [Monad m] (keys : RedisKeys) (clock : m Moment) (server : Request → m Reply)
    {c : QueueCall} : Nat → Stage c → m (Option c.Answer)
  | 0, _ => pure none
  | fuel + 1, s => do
    match s.receive (← server (s.request keys (← clock))) with
    | .stage s => runUpTo keys clock server fuel s
    | .finished a => pure (some a)

end Stage

/-- How many requests an operation takes at most if nothing else changes the store. -/
def requestLimit (keys : RedisKeys) (s : Store) : Nat :=
  2 * (s.lists keys.pending).length + 4 * (s.sets keys.scheduled).length + (s.lists keys.processing).length + 4

/-- A whole operation at one moment, with no other client at work. -/
def perform (keys : RedisKeys) (clock : Moment) (c : QueueCall) (s : Store) : Option c.Answer × Store :=
  Id.run <| StateT.run
    (Stage.runUpTo (m := StateM Store) keys (pure clock)
      (fun r => modifyGet fun s => ((s.perform r).2, (s.perform r).1)) (requestLimit keys s) (Stage.start c)) s

end RedisQueue
end Courier
