import Courier.Rehearsal.Script
import Courier.Rehearsal.Journal
import Courier.Rehearsal.ChatServer
import Courier.Rehearsal.Database
import Courier.Rehearsal.RedisServer
import Courier.Repository.Static
import Courier.Tenant.Resolver
import Courier.Target.Building
import Courier.Shutdown
import Courier.Worker
/-
The scene of a rehearsal: a store of tenants in the configuration, a queue in
memory and a set of targets, each of which follows a script.
-/

namespace Courier.Rehearsal

inductive StorePart
  | userOf | application | targets | target | increment | save | health
  deriving DecidableEq, Repr

inductive QueuePart
  | enqueue | dequeue | ack | retry | deadLetter | recover | stats
  deriving DecidableEq, Repr

inductive TargetPart
  | load | run | execute | shutdown
  deriving DecidableEq, Repr

inductive ChatPart
  | connect | ping | send | close
  deriving DecidableEq, Repr

def storePart : RepositoryCall → StorePart
  | .userOf _ => .userOf
  | .application _ _ => .application
  | .targets => .targets
  | .target _ => .target
  | .increment _ _ => .increment
  | .saveInput _ _ => .save
  | .health => .health

def queuePart : QueueCall → QueuePart
  | .enqueue _ => .enqueue
  | .dequeue => .dequeue
  | .ack _ => .ack
  | .retry _ _ => .retry
  | .deadLetter _ _ => .deadLetter
  | .recover => .recover
  | .stats => .stats

def targetPart : BackendCall → TargetPart
  | .load => .load
  | .run => .run
  | .execute _ _ => .execute
  | .shutdown => .shutdown

/-- How a handler of tasks turns out. -/
inductive HandlerFault
  | fails (f : TaskFailure)
  | breaks

/-- A target on the scene. -/
inductive Actor
  /-- One that does as its script says. -/
  | scripted (s : Script TargetPart BackendError)
  | xmpp (b : XmppBackend)
  | apprise (b : AppriseBackend)
  deriving Inhabited

/-- How commands turn out that can be run. -/
structure CommandCue where
  status : ExitStatus := .code 0
  stderr : List UInt8 := []
  /-- Milliseconds that a command takes. -/
  duration : Nat := 0
  deriving Inhabited

structure Slot where
  kind : TargetKind
  state : Lifecycle := .uninitialized
  actor : Actor
  deriving Inhabited

structure Scene where
  store : StaticRepository := {}
  /-- A database, in which the tenants stand instead. -/
  database : Option Database := none
  storeScript : Script StorePart RepositoryError := []
  queue : MemoryQueue := {}
  /-- A Redis server, on which the queue is kept under some keys instead. -/
  redis : Option (RedisKeys × RedisServer) := none
  queueScript : Script QueuePart QueueError := []
  /-- The targets in the order of their identifiers. -/
  slots : List (String × Slot) := []
  chatScript : Script ChatPart BackendError := []
  /-- How many sessions were opened. -/
  sessions : Nat := 0
  /-- A chat server, which plays instead of the script. -/
  chatServer : Option ChatServer := none
  /-- The programs that can be run. -/
  programs : List String := ["python", "interp"]
  commandCue : CommandCue := {}
  /-- The commands that were run. -/
  runs : List Command := []
  handlerScript : Script String HandlerFault := []
  metrics : Metrics := {}
  stats : WorkerStats := {}
  /-- How many identifiers were given out. -/
  identifiers : Nat := 0
  notes : List Note := []
  /-- What a rehearsal reports. -/
  reported : List Json.Value := []
  stopping : Bool := false
  /-- What is told if the relay fails. -/
  failure : Option String := none
  /-- How shutting down all targets ended, each time it did. -/
  stopped : List (Except RegistryError Unit) := []
  consumer : Option Consumer := none

instance : Inhabited Scene := ⟨{}⟩

namespace Scene

/-- Adds a note. -/
def note (n : Note) : Act Scene Unit := Act.modify fun s => { s with notes := s.notes ++ [n] }

/-- Takes the notes about some topics, in their written form. -/
def takeNotes (topics : List Topic) : Act Scene (List Json.Value) :=
  Act.modifyGet fun s =>
    (written topics s.notes, { s with notes := s.notes.filter fun n => !topics.contains n.topic })

def slot? (s : Scene) (id : String) : Option Slot := (s.slots.find? fun p => p.1 == id).map (·.2)

def setSlot (s : Scene) (id : String) (slot : Slot) : Scene :=
  { s with slots := s.slots.map fun p => if p.1 == id then (id, slot) else p }

def setActor (id : String) (a : Actor) : Act Scene Unit :=
  Act.modify fun s => match s.slot? id with
    | some slot => s.setSlot id { slot with actor := a }
    | none => s

/-- The registry of the targets on the scene. -/
def registry (s : Scene) : Registry := ⟨s.slots.map fun p => (p.1, p.2.kind)⟩

/-! ## The store -/

/-- What the store notes of a call. -/
def storeNote? : RepositoryCall → Option Note
  | .increment token stat => some (.increment token stat)
  | .saveInput token dump => some (.save token dump)
  | _ => none

/-- A call to the store that its script lets through. -/
def storeAnswer (c : RepositoryCall) : Act Scene c.Answer := do
  if let some n := storeNote? c then note n
  match (← Act.get).database with
  | none => return (← Act.get).store.answer c
  | some d =>
    let (r, d) := (Database.follow (PostgresRepository.answer c)).run d
    Act.modify fun s => { s with database := some d }
    return r

def storeCue (c : RepositoryCall) : Act Scene (Cue RepositoryError) :=
  Act.modifyGet fun s =>
    let (cue, script) := s.storeScript.next (storePart c)
    (cue, { s with storeScript := script })

/-- Asks the store. -/
def askStore (c : RepositoryCall) : Act Scene c.Answer := do (← storeCue c).play (storeAnswer c)

/-- Asks the store; gives up after some milliseconds. -/
def askStoreWithin (limit : Nat) (c : RepositoryCall) : Act Scene c.Timely := do
  (← storeCue c).playWithin limit (storeAnswer c)

/-! ## The queue -/

/-- A call to the queue that its script lets through. -/
def queueAnswer (c : QueueCall) : Act Scene c.Answer := do
  let time ← Act.now
  match c with
  | .enqueue _ | .ack _ | .retry _ _ | .deadLetter _ _ => note (.queue time c)
  | .dequeue | .recover | .stats => pure ()
  Act.modifyGet fun s =>
    match s.redis with
    | none =>
      let (q, r) := s.queue.answer time Calendar.Moment.epoch c
      (.ok r, { s with queue := q })
    | some (keys, server) =>
      let (r, server) := (RedisServer.ask keys c).run { server with time }
      (r, { s with redis := some (keys, server) })

/-- Asks the queue. -/
def askQueue (c : QueueCall) : Act Scene c.Answer := do
  let cue ← Act.modifyGet fun s =>
    let (cue, script) := s.queueScript.next (queuePart c)
    (cue, { s with queueScript := script })
  let r ← cue.play (queueAnswer c)
  match c, r with
  | .dequeue, .error _ => note (.dequeueFailed (← Act.now))
  | _, _ => pure ()
  return r

/-! ## The targets -/

/-- A target that plays itself. -/
def actorOf : TargetBackend → Actor
  | .xmpp b => .xmpp b
  | .apprise b => .apprise b

/-- The targets of a configuration, each on a slot. -/
def castTargets (ts : List Target) : Except RegistryError (List (String × Slot)) := do
  let built ← Registry.build ts
  return built.map fun (id, t) => (id, { kind := t.kind, state := t.state, actor := actorOf t.backend })

/-- The states of the targets. -/
def states (s : Scene) : List (String × Lifecycle) := s.slots.map fun p => (p.1, p.2.state)

/-- Adds to what a rehearsal reports. -/
def report (v : Json.Value) : Act Scene Unit := Act.modify fun s => { s with reported := s.reported ++ [v] }

/-- Acts something out, and gives what it reports last. -/
def rehearse (s : Scene) (a : Act Scene Json.Value) : Json.Value :=
  ((a >>= report).perform s).1.reported.getLast?.getD .null

def count (c : Count) : Act Scene Unit := Act.modify fun s => { s with metrics := s.metrics.increment c }

def chatCue (p : ChatPart) : Act Scene (Cue BackendError) :=
  Act.modifyGet fun s =>
    let (cue, script) := s.chatScript.next p
    (cue, { s with chatScript := script })

/-- Notes a call to the chat network and lets it turn out as the script says. -/
def chatTurn {α : Type} (c : ChatCall) (p : ChatPart) (work : Act Scene α) : Act Scene (Except BackendError α) := do
  note (.chat c)
  (← chatCue p).play (do return .ok (← work))

/-- The answer of the script for the chat network. -/
def askScript : (c : ChatCall) → Act Scene c.Answer
  | .connect s =>
    chatTurn (.connect s) .connect (Act.modifyGet fun s => (s.sessions, { s with sessions := s.sessions + 1 }))
  | .ping n => chatTurn (.ping n) .ping (pure ())
  | .send n to_ body => chatTurn (.send n to_ body) .send (pure ())
  | .close n => chatTurn (.close n) .close (pure ())
  | .reconnecting => count .reconnect

/-- Asks the chat network. -/
def askChat (c : ChatCall) : Act Scene c.Answer := do
  match (← Act.get).chatServer with
  | none => askScript c
  | some server =>
    if let .reconnecting := c then count .reconnect
    let (r, server) := (ChatServer.ask c).run server
    Act.modify fun s => { s with chatServer := some server }
    return r

/-- Runs a command; gives up after some milliseconds. -/
def runCommand (limit : Nat) (c : Command) : Act Scene CommandOutcome := do
  if (c.program :: c.args).any fun a => a.toList.contains '\x00' then
    return .failed "nul byte found in provided data"
  else if !(← Act.get).programs.contains c.program then return .failed "No such file or directory (os error 2)"
  else
    Act.modify fun s => { s with runs := s.runs ++ [c] }
    let cue ← Act.gets (·.commandCue)
    if cue.duration > limit then
      Act.sleep limit
      return .late
    else
      Act.sleep cue.duration
      return .finished cue.status cue.stderr

/-- Has a target do something, and keeps what it is afterwards. -/
def askTarget (id : String) (c : BackendCall) : Act Scene (Except BackendError Unit) := do
  let actor : Option Actor := ((← Act.get).slot? id).map (·.actor)
  match actor with
  | none => return .ok ()
  | some (.scripted script) =>
    note (.target id c)
    let (cue, script) := script.next (targetPart c)
    setActor id (.scripted script)
    cue.play (pure (.ok ()))
  | some (.xmpp b) =>
    let (r, b) ← (b.answer c).run fun (q : ChatAsk) => do
      setActor id (.xmpp q.left)
      askChat q.call
    setActor id (.xmpp b)
    return r
  | some (.apprise b) =>
    let (r, b) ← (b.answer c).run (runCommand b.limit.millis)
    setActor id (.apprise b)
    return r

/-- A step of the registry, with the target to itself. -/
def askRegistry : (q : RegistryStep) → Act Scene q.Answer
  | .count c => count c
  | .on id step => do
    Act.lock id
    let state := (((← Act.get).slot? id).map (·.state)).getD default
    let (r, state) ← (step.run state).run (askTarget id)
    Act.modify fun s => match s.slot? id with
      | some slot => s.setSlot id { slot with state }
      | none => s
    Act.unlock id
    return r

/-- Work of the registry. -/
def withRegistry {α : Type} (f : Registry → RegistryWork α) : Act Scene α := do
  (f (← Act.gets registry)).run askRegistry

/-! ## The worker -/

/-- Asks on behalf of a worker. -/
def askWorker (limit : Duration) : (q : WorkerAsk) → Act Scene q.Answer
  | .store c => askStoreWithin limit.millis c
  | .deliver id m args => withRegistry fun r => r.execute id m args
  | .record r => Act.modify fun s =>
    { s with stats := s.stats.add r, metrics := s.metrics.increment (.task r.name) }

/-- A worker that handles a task. -/
def work (w : Worker) (t : Task) : Act Scene (Option (Except TaskFailure Unit)) := do
  return some (← (w.handle t).run (askWorker w.limit))

/-- A handler that does as its script says for the task's payload; nothing comes of one that breaks. -/
def playHandler (t : Task) : Act Scene (Option (Except TaskFailure Unit)) := do
  note (.started (← Act.now) t)
  let cue ← Act.modifyGet fun s =>
    let (cue, script) := s.handlerScript.next t.payload
    (cue, { s with handlerScript := script })
  let r ← cue.play (pure (.ok ()))
  match r with
  | .error .breaks =>
    note (.ended (← Act.now) t)
    return none
  | .error (.fails f) =>
    note (.ended (← Act.now) t)
    return some (.error f)
  | .ok () =>
    note (.ended (← Act.now) t)
    return some (.ok ())

end Scene
end Courier.Rehearsal
