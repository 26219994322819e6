import Courier.Rehearsal.Consuming
import Courier.Service
/-
The service on the scene: requests are answered from the store and the queue
there, and a worker delivers what the consumer takes.
-/

namespace Courier.Rehearsal

namespace Serving

/-- A new identifier; each is given out once. -/
def newIdentifier : Act Scene Uuid :=
  Act.modifyGet fun s => (Uuid.ofRandom (s.identifiers + 1), { s with identifiers := s.identifiers + 1 })

/-- Asks on behalf of a request that brings a message. -/
def askIngress (limit : Duration) : (q : IngressAsk) → Act Scene q.Answer
  | .store c => Scene.askStoreWithin limit.millis c
  | .enqueue t => Scene.askQueue (.enqueue t)
  | .stamp => do return (← newIdentifier, Calendar.Moment.epoch)
  | .count c => Scene.count c

/-- Asks on behalf of a request. -/
def ask (limit : Duration) : (q : ServiceAsk) → Act Scene q.Answer
  | .ingress q => askIngress limit q
  | .health => Scene.askStore .health
  | .stats => Scene.askQueue .stats
  | .depth d => Act.modify fun s => { s with metrics := s.metrics.setDepth d }
  | .metrics => Act.gets fun s => s.metrics.text
  | .newIdentifier => newIdentifier

/-- Answers a request. -/
def respond (s : Service) (r : HttpRequest) : Act Scene HttpResponse := (s.handle r).run (ask s.ingress.limit)

/-- Loads and starts all targets. -/
def start : Act Scene (Except RegistryError Unit) := do
  match ← Scene.withRegistry Registry.loadAll with
  | .error e => return .error e
  | .ok () => Scene.withRegistry Registry.runAll

end Serving
end Courier.Rehearsal
