import Courier.Http
/-
The service as a whole: every request gets an identifier, bodies have a
greatest length, and requests are answered by the endpoint that their path
leads to.
-/

namespace Courier

open Json (Value)

/-- What answering a request asks for. -/
inductive ServiceAsk
  | ingress (q : IngressAsk)
  /-- Whether the store works. -/
  | health
  | stats
  /-- Notes how deep the queue is. -/
  | depth (s : QueueStats)
  /-- The counters as text. -/
  | metrics
  | newIdentifier

def ServiceAsk.Answer : ServiceAsk → Type
  | .ingress q => q.Answer
  | .health => Except RepositoryError Unit
  | .stats => Except QueueError QueueStats
  | .depth _ => Unit
  | .metrics => String
  | .newIdentifier => Uuid

abbrev ServiceWork := Procedure ServiceAsk ServiceAsk.Answer

structure Service where
  ingress : Ingress
  repositoryName : String
  queueName : String
  /-- The longest body of a request in octets. -/
  bodyLimit : Nat := 1048576
  production : Bool := false

namespace Service

def version : String := "1.0.0"

/-- The longest body that any endpoint takes, whatever the settings say. -/
def greatestBody : Nat := 2097152

/-- What is said of one part of the relay. -/
def partHealth (name : String) (error : Option String) : Value :=
  .object
    ([("name", .text name), ("healthy", .bool error.isNone)] ++ (error.map fun e => ("error", Value.text e)).toList)

def statsValue (s : QueueStats) : Value :=
  .object
    [("backend", .text s.backend), ("pending", .int s.pending), ("scheduled", .int s.scheduled),
     ("inflight", .int s.inflight), ("dead", .int s.dead)]

def live : HttpResponse := .json 200 (.object [("status", .text "ok"), ("version", .text version)])

/-- Whether the relay can work, and which part cannot. -/
def ready (s : Service) : ServiceWork HttpResponse := do
  let repository ← Procedure.query ServiceAsk.health
  let queue ← Procedure.query ServiceAsk.stats
  let repositoryError := match repository with
    | .ok () => none
    | .error e => some e.message
  let (queueError, stats) := match queue with
    | .ok s => (none, some s)
    | .error e => (some e.message, none)
  let healthy := repositoryError.isNone && queueError.isNone
  return .json (if healthy then 200 else 503)
    (.object
      ([("status", .text (if healthy then "ready" else "degraded")),
        ("repository", partHealth s.repositoryName repositoryError), ("queue", partHealth s.queueName queueError)] ++
        (stats.map fun s => ("queue_stats", statsValue s)).toList))

/-- The counters, with the depth of the queue as it is now. -/
def metrics : ServiceWork HttpResponse := do
  if let .ok s ← Procedure.query ServiceAsk.stats then
    let _ ← Procedure.query (ServiceAsk.depth s)
  let text ← Procedure.query ServiceAsk.metrics
  return {
    status := 200, headers := [(Headers.contentType, Text.encode "text/plain; version=0.0.4; charset=utf-8")], body := text }

/-- How many octets of a body are read: no more than the request announces and the settings allow. -/
def readable (s : Service) (announced : Option Nat) : Nat :=
  min greatestBody (announced.elim s.bodyLimit fun n => min s.bodyLimit n)

/-- The length that a request announces. -/
def announced (r : HttpRequest) : Option Nat := do
  let text ← Headers.shown? (← Headers.get? r.headers "content-length")
  Number.natWithin? (2 ^ 64 - 1) text.toList

/-- The identifier of a request as the endpoints have it, empty if there is none that can be shown. -/
def requestId (r : HttpRequest) : String := ((Headers.get? r.headers Headers.requestId).bind Headers.shown?).getD ""

/-- Takes in a message. -/
def messages (s : Service) (r : HttpRequest) (route : Route) (token : Option String) : ServiceWork HttpResponse :=
  match token.map Text.percentDecode? with
  | some none => .result (.plain 400 "Invalid URL: Invalid UTF-8 in \x60token\x60")
  | decoded =>
    if r.body.length > s.readable (announced r) then
      .result (.plain 413 "Failed to buffer the request body: length limit exceeded")
    else do
      let work := s.ingress.respond ⟨route, decoded.join, r.headers, r.query, r.body⟩
      match ← work.through fun q => Procedure.query (ServiceAsk.ingress q) with
      | .ok () => return .json 200 (Envelope.accepted (requestId r))
      | .error e => return .json e.status (Envelope.rejected (e.clientText s.production) (requestId r))

/-- The response of an endpoint. -/
def endpoint (s : Service) (r : HttpRequest) (e : Endpoint) : ServiceWork HttpResponse :=
  match e with
  | .live => .result live
  | .ready => s.ready
  | .metrics => metrics
  | .messages route token => s.messages r route token

/-- The response to a request that has an identifier. -/
def dispatch (s : Service) (r : HttpRequest) : ServiceWork HttpResponse := do
  let target := Endpoint.ofPath? r.path
  let allowed := target.any fun e => e.allows r.method
  let response ←
    if (announced r).any (· > s.bodyLimit) then Procedure.result (HttpResponse.plain 413 "length limit exceeded")
    else
      match target with
      | none => Procedure.result { status := 404 }
      | some e => if allowed then s.endpoint r e else Procedure.result { status := 405 }
  return { response with
    headers := (if allowed then none else target).elim response.headers fun e =>
      Headers.set response.headers Headers.allow (Text.encode e.allow)
    body := if r.method = "HEAD" then "" else response.body }

/-- The identifier that a request brings along, if it can be shown. -/
def givenId? (r : HttpRequest) : Option (List UInt8) :=
  (Headers.get? r.headers Headers.requestId).filter fun value => (Headers.shown? value).any fun id => !id.isEmpty

/-- Answers a request. One that only asks what is allowed is told so at once. -/
def handle (s : Service) (r : HttpRequest) : ServiceWork HttpResponse := do
  if r.method = "OPTIONS" then
    return {
      status := 200, headers := ((Endpoint.ofPath? r.path).map fun e => (Headers.allow, Text.encode e.allow)).toList }
  else
    let (id, r) ← match givenId? r with
      | some id => Procedure.result (id, r)
      | none => do
        let id := Text.encode (← Procedure.query ServiceAsk.newIdentifier).text
        pure (id, { r with headers := Headers.set r.headers Headers.requestId id })
    let response ← s.dispatch r
    return { response with headers := Headers.set response.headers Headers.requestId id }

end Service
end Courier
