import Courier.Ingress.Refusal
import Courier.Metrics
import Courier.Text.Percent
/-
Taking in messages. A message comes in by one of three routes, is assigned to
the user whose token it carries, checked, and put on the queue. What was sent
is saved and counted for the application on the way, and neither of these can
refuse the message.
-/

namespace Courier

open Json (Value)
open Calendar (Moment)

/-- The routes by which messages come in. -/
inductive Route
  /-- The token stands in the message. -/
  | pushover
  /-- From inside: records that are disabled are found too. -/
  | submit
  /-- In the format of the application. -/
  | application
  deriving DecidableEq, Repr

def Route.name : Route → String
  | .pushover => "pushover"
  | .submit => "submit"
  | .application => "application"

/-- The headers of a request: names in lower case, and octets. -/
abbrev Headers := List (String × List UInt8)

/-- What was sent in. -/
structure Submission where
  route : Route
  /-- The token in the path; the first route has none. -/
  token : Option String
  headers : Headers
  query : Option String
  body : List UInt8

/-- What taking in a message asks for. -/
inductive IngressAsk
  | store (c : RepositoryCall)
  | enqueue (t : Task)
  /-- An identifier and the time for a new task. -/
  | stamp
  | count (c : Count)

def IngressAsk.Answer : IngressAsk → Type
  | .store c => c.Timely
  | .enqueue _ => Except QueueError Unit
  | .stamp => Uuid × Moment
  | .count _ => Unit

abbrev IngressWork := Procedure IngressAsk IngressAsk.Answer

structure Ingress where
  /-- How dates in custom formats are read. -/
  date : String → Option Int
  /-- How long a question to the store may take. -/
  limit : Duration := Resolver.defaultLimit

namespace Ingress

/-- A lookup as part of the work. -/
def look {α : Type} (p : Lookups α) : IngressWork α := p.through fun c => Procedure.query (IngressAsk.store c)

/-- Reads a value from octets; `what` names it in a refusal. -/
def read {α : Type} (d : Json.Decoder α) (what : String) (body : List UInt8) : Except Refusal α :=
  (d.run (Text.decode body)).mapError fun text => .badRequest ("Invalid " ++ what ++ " body: " ++ text)

/-- Reads a message. Flags for use inside are not taken from outside. -/
def readMessage (body : List UInt8) : Except Refusal Message := (read Message.layout "message" body).map Message.clearInternal

/-- One line for each pair of names and values. -/
def dumpLines (pairs : List (String × String)) : String :=
  String.join (pairs.map fun p => p.1 ++ ": " ++ p.2 ++ "\n")

/-- The pairs of a query. -/
def queryPairs (query : String) : List (String × String) :=
  ((Text.pieces '&' query).filter fun p => !p.isEmpty).map fun p =>
    match Text.pieces '=' p with
    | key :: v :: r => (key, String.intercalate "=" (v :: r))
    | _ => (p, "")

/-- A record of a request, as it is saved. -/
def dump (headers : Headers) (query : Option String) (body : String) : String :=
  "--- HEADERS ---\n" ++ dumpLines (headers.map fun h => (h.1, Text.decodeLossy h.2)) ++
  "\n--- QUERIES ---\n" ++ dumpLines (queryPairs (query.getD "")) ++
  "\n--- BODY ---\n" ++ body

/-- The message in a body by the application route, and the body in its pretty form. -/
def interpret (g : Ingress) (a : Application) (body : List UInt8) : Except Refusal (Message × String) :=
  match a.format with
  | .pushover => (readMessage body).map fun m => (m, m.toValue.pretty)
  | .custom => (read Json.Decoder.value "JSON" body).map fun v => ((Extraction.extract g.date a.customFormat v).1, v.pretty)

/-- Makes a message ready for the queue: it belongs to the user, and all else is checked. -/
def prepare (m : Message) (token user : String) (viaSubmit : Bool) : Except Refusal Message :=
  let m := m.assignIdentity token user
  match m.validate with
  | .error e => .error (.validation e)
  | .ok () => .ok (m.setViaSubmit viaSubmit)

/-- Puts a message on the queue. -/
def enqueue (m : Message) : IngressWork (Except Refusal Unit) :=
  .ask .stamp fun stamp =>
    .ask (.enqueue ⟨stamp.1, Task.messageKind, m.encode, 0, stamp.2⟩) fun
      | .ok () => .result (.ok ())
      | .error e => .result (.error (.queue e))

/-- Takes in a message for which user and application are known. -/
def takeIn (g : Ingress) (s : Submission) (token : String) (u : User) (m : Message) (pretty : String) :
    IngressWork (Except Refusal Unit) := do
  let _ ← look (Resolver.ask g.limit (.saveInput token (dump s.headers s.query pretty)))
  match prepare m token u.key (s.route == .submit) with
  | .error e => return .error e
  | .ok m =>
    match ← enqueue m with
    | .error e => return .error e
    | .ok () =>
      let _ ← Procedure.query (IngressAsk.count .enqueued)
      let _ ← look (Resolver.increment g.limit token .processed)
      return .ok ()

/-- The message in a body that is a message, on the routes where it must be one. -/
def message? (s : Submission) : Except Refusal (Option Message) :=
  if s.route == .application then .ok none else (readMessage s.body).map some

/-- The token of a submission: the one in the path, or else the one in the message. -/
def tokenOf (s : Submission) (m : Option Message) : String := s.token.getD ((m.map (·.token)).getD "")

/-- Takes in a submission, or says why not. -/
def process (g : Ingress) (s : Submission) : IngressWork (Except Refusal Unit) := do
  match message? s with
  | .error e => return .error e
  | .ok sent =>
    let token := tokenOf s sent
    if !Message.isPrintable token then return .error (.badRequest "invalid application token")
    else
      match ← look (Resolver.byToken g.limit token (s.route == .submit)) with
      | .error e => return .error (.ofResolve e)
      | .ok (u, a) =>
        match sent with
        | some m => g.takeIn s token u m m.toValue.pretty
        | none =>
          match g.interpret a s.body with
          | .error e => return .error e
          | .ok (m, pretty) => g.takeIn s token u m pretty

/-- Takes in a submission and counts it. -/
def respond (g : Ingress) (s : Submission) : IngressWork (Except Refusal Unit) := do
  let r ← g.process s
  let _ ← Procedure.query (IngressAsk.count (.request s.route.name (if r.isOk then "accepted" else "rejected")))
  return r

end Ingress
end Courier
