import Courier.Queue.Processing
import Courier.Rehearsal.Scene
/-
A consumer on the scene: one thread that takes tasks, and one for each task
that is being processed.
-/

namespace Courier.Rehearsal

/-- What handles a task; nothing comes of a handler that breaks down. -/
abbrev Handler := Task → Act Scene (Option (Except TaskFailure Unit))

namespace Consuming

/-- Rehearsals do not spread waits. -/
def noDraw (_ _ : Number.Binary64) : Number.Binary64 := .zero false

/-- Lets an event happen to the consumer. -/
def happen (e : Consumer.Event) : Act Scene Unit :=
  Act.modify fun s => { s with consumer := s.consumer.map fun c => (c.step noDraw e).getD c }

/-- Does what processing a delivery asks for, under its number. -/
def answer (handler : Handler) (serial : Nat) : (q : ProcessAsk) → Act Scene q.Answer
  | .handle t => do
    match ← handler t with
    | none =>
      happen (.broken serial)
      Act.quit
    | some r =>
      happen (.handled serial r)
      return r
  | .count c => Scene.count c
  | .settle c => Scene.askQueue c

/-- Processes one delivery. -/
def process (handler : Handler) (config : ConsumerConfig) (serial : Nat) (d : Delivery) : Act Scene Unit := do
  (config.process noDraw d).run (answer handler serial)
  happen (.settled serial)

/-- The delivery that was taken last. -/
def latest? (s : Scene) : Option Consumer.Job := s.consumer.bind fun c => c.jobs.getLast?

def hasPlace (s : Scene) : Bool := s.consumer.any Consumer.hasPlace

/-- The deliveries whose end the consumer has not seen. -/
def left (s : Scene) : List Nat := (s.consumer.map Consumer.left).getD []

/-- The deliveries whose processing is over, which the consumer has not seen yet. -/
def unjoined (s : Scene) : List Nat := (s.consumer.map (·.unjoined)).getD []

def phase? (s : Scene) : Option Consumer.Phase := s.consumer.map (·.phase)

/-- The milliseconds that a wait for tasks takes at least, so that time passes. -/
def shortestWait : Nat := 1

/-- Takes tasks until told to stop; gives the threads that process them. -/
def take (handler : Handler) (config : ConsumerConfig) : Nat → List Nat → Act Scene (List Nat)
  | 0, threads => return threads
  | n + 1, threads => do
    Act.waitFor fun s => s.stopping || hasPlace s
    if (← Act.get).stopping then
      happen .stop
      return threads
    happen .place
    let answer ← Scene.askQueue .dequeue
    happen (.dequeued (.ofAnswer answer))
    match phase? (← Act.get), latest? (← Act.get) with
    | some (.waiting ms), _ =>
      if ← Act.waitWithin (max ms shortestWait) (·.stopping) then
        happen .stop
        return threads
      else
        happen .waited
        take handler config n threads
    | _, some job =>
      let thread ← Act.fork (process handler config job.serial job.delivery)
      take handler config n (thread :: threads)
    | _, none => return threads

/-- How often a consumer looks for a task at most. -/
def lookLimit : Nat := 1000000

/-- How many steps a thread takes before it lets others go on. -/
def turn : Nat := 128

/-- Takes note of the ends of some deliveries, and of no more than a number. -/
def join : Nat → Act Scene Unit
  | 0 => return ()
  | n + 1 => do
    match unjoined (← Act.get) with
    | [] => return ()
    | serial :: _ =>
      happen (.joined serial)
      join n

/-- Takes note of the ends of deliveries as they come. -/
def joinAll : Nat → Act Scene Unit
  | 0 => return ()
  | n + 1 => do
    Act.waitFor fun s => !(unjoined s).isEmpty
    join turn
    joinAll n

/-- Ends every thread of a list. -/
def abortAll : List Nat → Act Scene Unit
  | [] => return ()
  | t :: r => do
    Act.abort t
    abortAll r

/-- Takes note that the processing of some deliveries was aborted. -/
def cancelAll : List Nat → Act Scene Unit
  | [] => return ()
  | serial :: r => do
    happen (.cancelled serial)
    cancelAll r

/-- Waits for the deliveries that are left, and aborts what is left when the time is over. The consumer was told to
stop in its first turn, which is a step less for it. In its last one it looks at the clock, whatever is left. -/
def drain (grace : Nat) (threads : List Nat) : Act Scene Unit := do
  join (turn - 1)
  if grace ≠ 0 then
    let joining ← Act.fork (joinAll lookLimit)
    let _ ← Act.waitWithin grace fun s => (left s).isEmpty
    Act.abort joining
    join turn
  unless (left (← Act.get)).isEmpty do
    happen .graceOver
    abortAll threads
    cancelAll (left (← Act.get))
    join (left (← Act.get)).length
  happen .drained

/-- Runs a consumer until it has stopped. -/
def run (handler : Handler) (config : ConsumerConfig) : Act Scene Unit := do
  Act.modify fun s => { s with consumer := some { config } }
  let _ ← Scene.askQueue .recover
  happen .recovered
  let threads ← take handler config lookLimit []
  drain config.grace threads

/-- Whether the consumer has stopped. -/
def isFinished (s : Scene) : Bool := phase? s == some .finished

/-- Runs a consumer and stops it after some milliseconds. -/
def runFor (handler : Handler) (config : ConsumerConfig) (ms : Nat) : Act Scene ConsumerReport := do
  Act.modify fun s => { s with stopping := false, consumer := none }
  let _ ← Act.fork (run handler config)
  Act.sleep ms
  Act.modify fun s => { s with stopping := true }
  Act.waitFor isFinished
  return ((← Act.get).consumer.map (·.report)).getD {}

/-- A task for a rehearsal of a consumer. -/
structure Arrival where
  time : Nat := 0
  task : Task
  /-- Whether it was handed out before, and never settled. -/
  leftInFlight : Bool := false

/-- Puts a task on the queue, whatever the script says. -/
def arrive (a : Arrival) : Act Scene Unit := do
  let time ← Act.now
  Act.modify fun s =>
    let q := s.queue.enqueue a.task
    { s with queue := if a.leftInFlight then (q.dequeue time).1 else q }

/-- Puts the tasks on the queue at their times. -/
def arriveAll : List Arrival → Act Scene Unit
  | [] => return ()
  | a :: r => do
    Act.sleep (a.time - (← Act.now))
    arrive a
    arriveAll r

/-- A consumer under a script: the tasks there from the start, those that come later, and when it is stopped. -/
def rehearse (config : ConsumerConfig) (tasks later : List Arrival) (stopAt : Nat) : Act Scene Unit := do
  arriveAll tasks
  let _ ← Act.fork (arriveAll later)
  let _ ← runFor Scene.playHandler config stopAt

end Consuming
end Courier.Rehearsal
