/-
Threads over a shared state and a clock. A thread runs until it waits: for a
condition on the state, for some milliseconds, or for a lock. Time passes only
when every thread waits. Which thread goes on first is fixed, so that a
rehearsal of the same script always takes the same course.
-/

namespace Courier.Rehearsal

/-- What is left of a thread. -/
inductive Thread (σ : Type)
  | done
  | look (next : σ → Thread σ)
  | change (f : σ → σ) (next : Unit → Thread σ)
  | clock (next : Nat → Thread σ)
  /-- Waits for a condition, up to some milliseconds; goes on with whether it holds. -/
  | await (holds : σ → Bool) (limit : Option Nat) (next : Bool → Thread σ)
  /-- Lets all other threads go on as long as they can without time passing. -/
  | rest (next : Unit → Thread σ)
  | lock (key : String) (next : Unit → Thread σ)
  | unlock (key : String) (next : Unit → Thread σ)
  /-- Starts another thread; goes on with its number. -/
  | fork (other : Unit → Thread σ) (next : Nat → Thread σ)
  /-- Ends another thread, which gives up its locks. -/
  | abort (other : Nat) (next : Unit → Thread σ)

/-- A course of a thread that comes to a value. -/
def Act (σ α : Type) : Type := (α → Thread σ) → Thread σ

namespace Act

variable {σ α β : Type}

instance : Monad (Act σ) where
  pure a := fun k => k a
  bind x f := fun k => x fun a => f a k

/-- The state. -/
def get : Act σ σ := fun k => .look k

def gets (f : σ → α) : Act σ α := fun k => .look fun s => k (f s)

def modify (f : σ → σ) : Act σ Unit := fun k => .change f k

def modifyGet (f : σ → α × σ) : Act σ α := fun k => .look fun s => .change (fun _ => (f s).2) fun _ => k (f s).1

/-- Milliseconds since the start. -/
def now : Act σ Nat := fun k => .clock k

def sleep (ms : Nat) : Act σ Unit := fun k => .await (fun _ => false) (some ms) fun _ => k ()

/-- Never goes on. -/
def stall : Act σ α := fun _ => .await (fun _ => false) none fun _ => .done

def waitFor (holds : σ → Bool) : Act σ Unit := fun k => .await holds none fun _ => k ()

/-- Waits for a condition up to some milliseconds; tells whether it holds. -/
def waitWithin (ms : Nat) (holds : σ → Bool) : Act σ Bool := fun k => .await holds (some ms) k

def rest : Act σ Unit := fun k => .rest k

def lock (key : String) : Act σ Unit := fun k => .lock key k

def unlock (key : String) : Act σ Unit := fun k => .unlock key k

def fork (other : Act σ Unit) : Act σ Nat := fun k => .fork (fun _ => other fun _ => .done) k

def abort (other : Nat) : Act σ Unit := fun k => .abort other k

/-- Ends the thread itself. -/
def quit : Act σ α := fun _ => .done

end Act

/-- A thread that waits for a condition or a time. -/
structure Waiting (σ : Type) where
  thread : Nat
  holds : σ → Bool
  deadline : Option Nat
  next : Bool → Thread σ

/-- All threads with the state and the clock. The first thread has number 0. -/
structure Machine (σ : Type) where
  state : σ
  now : Nat := 0
  started : Nat := 1
  /-- Threads that can go on, in the order in which they do. -/
  runnable : List (Nat × (Unit → Thread σ))
  waiting : List (Waiting σ) := []
  /-- Threads that wait for a lock, in the order in which they get it. -/
  queued : List (String × Nat × (Unit → Thread σ)) := []
  held : List (String × Nat) := []
  /-- Whether the first thread has come to its end. -/
  ended : Bool := false

namespace Machine

variable {σ : Type}

/-- Gives up a lock; the first thread that waits for it gets it. -/
def release (m : Machine σ) (key : String) : Machine σ :=
  let held := m.held.filter fun h => h.1 != key
  match m.queued.find? fun q => q.1 == key with
  | none => { m with held }
  | some (_, thread, next) =>
    { m with
      held := (key, thread) :: held
      queued := m.queued.filter fun q => !(q.1 == key && q.2.1 == thread)
      runnable := m.runnable ++ [(thread, next)] }

/-- The machine without a thread. -/
def remove (m : Machine σ) (thread : Nat) : Machine σ :=
  let keys := (m.held.filter fun h => h.2 == thread).map (·.1)
  let m := { m with
    runnable := m.runnable.filter fun r => r.1 != thread
    waiting := m.waiting.filter fun w => w.thread != thread
    queued := m.queued.filter fun q => q.2.1 != thread }
  keys.foldl release m

/-- Runs a thread until it waits. -/
def run (thread : Nat) (m : Machine σ) : Thread σ → Machine σ
  | .done => if thread = 0 then { m with ended := true } else m
  | .look next => run thread m (next m.state)
  | .change f next => run thread { m with state := f m.state } (next ())
  | .clock next => run thread m (next m.now)
  | .await holds limit next =>
    if holds m.state then run thread m (next true)
    else if limit = some 0 then run thread m (next false)
    else { m with waiting := m.waiting ++ [⟨thread, holds, limit.map (m.now + ·), next⟩] }
  | .rest next => { m with waiting := m.waiting ++ [⟨thread, fun _ => false, some m.now, fun _ => next ()⟩] }
  | .lock key next =>
    if m.held.any fun h => h.1 == key then { m with queued := m.queued ++ [(key, thread, next)] }
    else run thread { m with held := (key, thread) :: m.held } (next ())
  | .unlock key next => run thread (m.release key) (next ())
  | .fork other next =>
    run thread { m with started := m.started + 1, runnable := m.runnable ++ [(m.started, other)] } (next m.started)
  | .abort other next => run thread (m.remove other) (next ())

/-- Lets the waiting threads go on whose condition holds. -/
def wake (m : Machine σ) : Machine σ :=
  let (ready, waiting) := m.waiting.partition fun w => w.holds m.state
  if ready.isEmpty then m
  else { m with waiting, runnable := m.runnable ++ ready.map fun w => (w.thread, fun _ => w.next true) }

/-- The next time at which a wait is over. -/
def nextDeadline? (m : Machine σ) : Option Nat := (m.waiting.filterMap (·.deadline)).min?

/-- Lets the time pass, and the threads go on whose wait is over then. -/
def advance (m : Machine σ) (time : Nat) : Machine σ :=
  let (due, waiting) := m.waiting.partition fun w => w.deadline == some time
  { m with now := time, waiting, runnable := m.runnable ++ due.map fun w => (w.thread, fun _ => .look fun s => w.next (w.holds s)) }

/-- Runs all threads until the first one has ended, or none can go on. -/
def steps : Nat → Machine σ → Machine σ
  | 0, m => m
  | n + 1, m =>
    if m.ended then m
    else
      match m.runnable with
      | (thread, next) :: r => steps n (wake (run thread { m with runnable := r } (next ())))
      | [] =>
        match m.nextDeadline? with
        | none => m
        | some time => steps n (m.advance time)

/-- How many steps a rehearsal takes at most. -/
def stepLimit : Nat := 10000000

end Machine

/-- Acts out a course from a state; gives the state and the time at its end. -/
def Act.perform {σ : Type} (a : Act σ Unit) (s : σ) : σ × Nat :=
  let m := Machine.steps Machine.stepLimit { state := s, runnable := [(0, fun _ => a fun _ => .done)] }
  (m.state, m.now)

end Courier.Rehearsal
