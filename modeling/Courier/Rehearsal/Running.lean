import Courier.Rehearsal.Closing
import Courier.Rehearsal.Serving
import Courier.Relay
/-
A whole relay on the scene, from its start to its end. Once it answers
requests, visitors come; when they have gone, it is told to stop.
-/

namespace Courier.Rehearsal

/-- A relay, and what it has around it. -/
structure Running where
  relay : Relay
  worker : Worker
  /-- Ports that are in use already. -/
  takenPorts : List Nat := []
  /-- What visitors do. -/
  visit : Service → Act Scene Unit

namespace Running

/-- Opens the store; a database is on the scene from the beginning. -/
def openStore : RepositoryBackend → Act Scene (Except Postgres.PoolError Unit)
  | .static r => Act.modifyGet fun s => (.ok (), { s with store := r, database := none })
  | .postgres url => Act.modifyGet fun s =>
    let (r, d) := (Database.follow (Postgres.establish url)).run (s.database.getD {})
    (r, { s with database := some d })

/-- Opens the queue, which is empty. -/
def openQueue : QueueBackend → Act Scene (Except QueueError Unit)
  | .memory => return .ok ()
  | .redis address keys => Act.modifyGet fun s =>
    (.ok (), { s with redis := some (keys, ((RedisServer.greet address).run {}).2) })

/-- Closes the store. -/
def closeStore : Act Scene Unit := do
  Scene.note .close
  Act.modify fun s => { s with database := s.database.map fun d => ((Database.follow Postgres.shut).run d).2 }

/-- Waits for the consumer on the scene. -/
def awaitConsumer (limit : Nat) : Act Scene ConsumerEnd := do
  if ← Act.waitWithin limit Consuming.isFinished then
    return .finished (((← Act.get).consumer.map (·.report)).getD {})
  else return .late

/-- Does what bringing down asks for. -/
def closing : (q : ShutdownAsk) → Act Scene q.Answer
  | .awaitConsumer limit => awaitConsumer limit
  | .closeStore => closeStore
  | .signal => Closing.answer none .signal
  | .stopTargets limit => Closing.answer none (.stopTargets limit)

/-- Does what a relay asks for. -/
def answer (r : Running) : (q : RelayAsk) → Act Scene q.Answer
  | .openStore b => openStore b
  | .store c => Scene.askStore c
  | .makeTargets ts => Act.modify fun s => { s with slots := (Scene.castTargets ts).toOption.getD [] }
  | .registry q => Scene.askRegistry q
  | .openQueue b => openQueue b
  | .startConsumer c => do
    let _ ← Act.fork (Consuming.run (Scene.work r.worker) c)
    return ()
  | .serve s _ port => do
    if r.takenPorts.contains port then return (.error "Address already in use (os error 98)" : Except String Unit)
    else
      r.visit s
      return .ok ()
  | .awaitStop => return ()
  | .shutdown q => closing q

/-- Runs a relay. -/
def run (r : Running) : Act Scene (Except RelayError Unit) := r.relay.run.run r.answer

/-- A request as a client sends it that asks nothing more. -/
def alone (r : HttpRequest) : HttpRequest :=
  let own : Headers :=
    [("host", "relay"), ("connection", "close"), ("content-length", toString r.body.length)].map fun h =>
      (h.1, Text.encode h.2)
  { r with headers := own ++ r.headers }

/-- How often a visitor looks whether the queue has settled. -/
def lookLimit : Nat := 100000

/-- Milliseconds between two looks. -/
def lookWait : Nat := 10

/-- Waits until nothing is pending or in flight. -/
def settle (s : Service) : Nat → Act Scene (Option QueueStats)
  | 0 => return none
  | n + 1 => do
    let _ ← Scene.askStore .health
    match ← Serving.ask s.ingress.limit .stats with
    | .error _ => return none
    | .ok (stats : QueueStats) =>
      if stats.pending = 0 ∧ stats.inflight = 0 then return some stats
      else
        Act.sleep lookWait
        settle s n

end Running
end Courier.Rehearsal
