import Courier.Service
import Courier.Proofs.Ingress
/-
What a request to take in a message does. Whatever the request is, and whatever the
store and the queue answer or fail to answer, the queue gets one task at most; the
task carries a message that was checked, that belongs to the user of the token, and
whose flag tells the route it came by; and the client hears that its message was
taken in just when the queue took it.
-/

namespace Courier.Service

open Procedure

abbrev ServiceLog : Type := Log ServiceAsk.Answer

/-- Whether something is to be put on the queue. -/
def asksEnqueue : ServiceAsk → Bool
  | .ingress q => q.isEnqueue
  | .health | .stats | .depth _ | .metrics | .newIdentifier => false

/-- Whether a token is the one that a request goes by: the one in the body by the
first route, and the one in the path by the others. -/
def GoesBy (route : Route) (segment : Option String) (body : List UInt8) (token : String) : Prop :=
  match route, segment with
  | .pushover, _ => ∃ m, (Message.layout : Json.Decoder Message).run (Text.decode body) = .ok m ∧ token = m.token
  | .submit, some raw | .application, some raw => Text.percentDecode? raw = some token
  | .submit, none | .application, none => False

/-- What is known of a task that is put on the queue for a request: its message, and
the user and the application that the store gave for it. -/
structure Admitted (route : Route) (segment : Option String) (body : List UInt8) (l : ServiceLog) (t : Task) (m : Message)
    (u : User) (a : Application) : Prop where
  kind : t.kind = Task.messageKind
  carried : Message.decode t.payload = .ok m
  valid : m.validate = .ok ()
  token : GoesBy route segment body m.token
  user : m.user = u.key
  viaSubmit : m.isViaSubmit = true ↔ route = .submit
  owner : ⟨.ingress (.store (.userOf m.token)), some (some (.ok u))⟩ ∈ l
  application : ⟨.ingress (.store (.application u.key m.token)), some (some (.ok a))⟩ ∈ l
  enabled : route ≠ .submit → u.enable = true ∧ a.enable = true

/-- Whether the queue took a task. -/
def Queued (l : ServiceLog) : Prop := ∃ t, (⟨.ingress (.enqueue t), some (.ok ())⟩ : (q : ServiceAsk) × Option q.Answer) ∈ l

/-- What a request to take in a message comes to. -/
structure Served (route : Route) (segment : Option String) (body : List UInt8) (l : ServiceLog)
    (response : Option HttpResponse) : Prop where
  once : (l.countP fun x => asksEnqueue x.1) ≤ 1
  admitted : ∀ t x, (⟨.ingress (.enqueue t), x⟩ : (q : ServiceAsk) × Option q.Answer) ∈ l →
    ∃ m u a, Admitted route segment body l t m u a
  status : ∀ p, response = some p → (p.status = 200 ↔ Queued l)
  text : ∀ p, response = some p → p.status = 200 → ∃ id, p.body = (Envelope.accepted id).compact

variable {s : Service} {r : HttpRequest} {route : Route} {segment : Option String} {body : List UInt8} {l : ServiceLog}
  {response : Option HttpResponse}

/-- Requests that come to nothing. -/
theorem Served.refused {p : HttpResponse} (hp : p.status ≠ 200) : Served route segment body [] (some p) where
  once := Nat.zero_le 1
  admitted _ _ hx := by cases hx
  status p' hp' := by
    cases hp'
    exact ⟨fun h => absurd h hp, fun ⟨_, h⟩ => by cases h⟩
  text p' hp' h := by
    cases hp'
    exact absurd h hp

/-- The first route has no token in its path, and the others have one. -/
theorem route_segment {path : String} (h : Endpoint.ofPath? path = some (.messages route segment)) :
    route = .pushover ↔ segment = none := by
  unfold Endpoint.ofPath? at h
  split at h
  iterate 3
    · cases h
  · cases h
    simp
  iterate 2
    · split at h
      · cases h
      · cases h
        simp
  · cases h

/-- The token of a submission is the one that its request goes by. -/
theorem goesBy_tokenOf {sent : Option Message} (hsegment : route = .pushover ↔ segment = none)
    (hdecoded : segment.map Text.percentDecode? ≠ some none)
    (hsent : Ingress.message? ⟨route, (segment.map Text.percentDecode?).join, r.headers, r.query, r.body⟩ = .ok sent) :
    GoesBy route segment r.body
      (Ingress.tokenOf ⟨route, (segment.map Text.percentDecode?).join, r.headers, r.query, r.body⟩ sent) := by
  cases segment with
  | none =>
    obtain rfl := hsegment.2 rfl
    obtain ⟨m, hm, rfl⟩ := ok_of_map (show (Ingress.readMessage r.body).map some = .ok sent from hsent)
    exact (Ingress.readMessage_ok hm).1
  | some raw =>
    cases htoken : Text.percentDecode? raw with
    | none => simp [htoken] at hdecoded
    | some token =>
      have hne : route ≠ .pushover := fun h => by simpa using hsegment.1 h
      cases route with
      | pushover => exact absurd rfl hne
      | submit | application => simp [GoesBy, Ingress.tokenOf, htoken]

/-- What was tried for a submission was done for its request. -/
theorem served_of_tried (hsegment : route = .pushover ↔ segment = none)
    (hdecoded : segment.map Text.percentDecode? ≠ some none) {l : Ingress.IngressLog}
    {outcome : Option (Except Refusal Unit)}
    (h : Ingress.Tried
      (fun t => ∃ sent m u a,
        Ingress.Admitted ⟨route, (segment.map Text.percentDecode?).join, r.headers, r.query, r.body⟩ l t sent m u a)
      l outcome)
    (hresponse : ∀ p, response = some p →
      ∃ y, outcome = some y ∧ (p.status = 200 ↔ y = .ok ()) ∧ (y = .ok () → ∃ id, p.body = (Envelope.accepted id).compact)) :
    Served route segment r.body (Log.translate (B := ServiceAsk.Answer) ServiceAsk.ingress l) response := by
  have hmem {q : IngressAsk} {x : Option q.Answer} :
      (⟨.ingress q, x⟩ : (q : ServiceAsk) × Option q.Answer) ∈
        Log.translate (B := ServiceAsk.Answer) ServiceAsk.ingress l ↔ (⟨q, x⟩ : (q : IngressAsk) × Option q.Answer) ∈ l :=
    Log.mem_translate (f := ServiceAsk.ingress) fun _ _ h => ServiceAsk.ingress.inj h
  refine ⟨?_, fun t x hx => ?_, fun p hp => ?_, fun p hp hstatus => ?_⟩
  · have hcount : (Log.translate (B := ServiceAsk.Answer) ServiceAsk.ingress l).countP (fun x => asksEnqueue x.1) =
        l.countP (·.1.isEnqueue) := List.countP_map
    rw [hcount]
    exact h.once
  · obtain ⟨⟨sent, m, u, a, ha⟩, -⟩ := h.asked (hmem.1 hx)
    refine ⟨m, u, a, ha.kind, ha.carried, ha.valid, ?_, ha.user, ?_, hmem.2 ha.owner, hmem.2 ha.application, ha.enabled⟩
    · rw [ha.token]
      exact goesBy_tokenOf hsegment hdecoded ha.read
    · rw [ha.viaSubmit]
      exact beq_iff_eq
  · obtain ⟨y, rfl, hstatus, -⟩ := hresponse p hp
    rw [hstatus]
    refine ⟨fun hy => ?_, fun ⟨t, ht⟩ => ((h.asked (hmem.1 ht)).2 y rfl).2 rfl⟩
    subst hy
    obtain ⟨t, ht⟩ := h.taken
    exact ⟨t, hmem.2 ht⟩
  · obtain ⟨y, rfl, hy, hbody⟩ := hresponse p hp
    exact hbody (hy.1 hstatus)

theorem messages_served (hdate : Extraction.Dates s.ingress.date) (hsegment : route = .pushover ↔ segment = none)
    (h : (s.messages r route segment).Runs l response) : Served route segment r.body l response := by
  unfold messages at h
  split at h
  · obtain ⟨rfl, rfl⟩ := runs_result h
    exact .refused (by simp [HttpResponse.plain])
  next hsome =>
  split at h
  · obtain ⟨rfl, rfl⟩ := runs_result h
    exact .refused (by simp [HttpResponse.plain])
  rcases runs_bind h with ⟨h₁, rfl⟩ | ⟨y, l₁, l₂, rfl, h₁, h₂⟩
  · obtain ⟨l', hwork, rfl⟩ := runs_through (f := ServiceAsk.ingress) h₁
    exact served_of_tried hsegment hsome (Ingress.respond_tried hdate hwork) (by simp)
  · obtain ⟨l', hwork, rfl⟩ := runs_through (f := ServiceAsk.ingress) h₁
    cases y with
    | ok _ =>
      obtain ⟨rfl, rfl⟩ := runs_result h₂
      rw [List.append_nil]
      refine served_of_tried hsegment hsome (Ingress.respond_tried hdate hwork) fun p hp => ?_
      cases hp
      exact ⟨_, rfl, ⟨fun _ => rfl, fun _ => rfl⟩, fun _ => ⟨_, rfl⟩⟩
    | error e =>
      obtain ⟨rfl, rfl⟩ := runs_result h₂
      rw [List.append_nil]
      refine served_of_tried hsegment hsome (Ingress.respond_tried hdate hwork) fun p hp => ?_
      cases hp
      refine ⟨_, rfl, ⟨fun h => ?_, fun h => by cases h⟩, fun h => by cases h⟩
      cases e <;> simp [HttpResponse.json, Refusal.status] at h

theorem Served.changed {p p' : HttpResponse} (h : Served route segment body l (some p)) (hstatus : p'.status = p.status)
    (hbody : p'.body = p.body) : Served route segment body l (some p') where
  once := h.once
  admitted := h.admitted
  status q hq := by
    cases hq
    exact hstatus ▸ h.status p rfl
  text q hq hok := by
    cases hq
    exact hbody ▸ h.text p rfl (hstatus ▸ hok)

/-- A request that an ingestion route lets through is a POST. -/
theorem method_of_allows {method : String} (h : (Endpoint.messages route segment).allows method = true) :
    method = "POST" := by
  have hpieces : Text.pieces ',' (Endpoint.messages route segment).allow = ["POST"] := by
    show Text.pieces ',' "POST" = ["POST"]
    decide
  rw [Endpoint.allows, hpieces] at h
  simpa using h

theorem dispatch_served (hdate : Extraction.Dates s.ingress.date)
    (hpath : Endpoint.ofPath? r.path = some (.messages route segment))
    (h : (s.dispatch r).Runs l response) : Served route segment r.body l response := by
  unfold dispatch at h
  simp only [hpath] at h
  split at h
  · obtain ⟨rfl, rfl⟩ := runs_result h
    exact .refused (by simp [HttpResponse.plain])
  split at h
  · next hallowed =>
    simp only [Option.any_some] at hallowed
    have hmethod : r.method ≠ "HEAD" := by
      rw [method_of_allows hallowed]
      decide
    rcases runs_bind h with ⟨h₁, rfl⟩ | ⟨p, l₁, l₂, rfl, h₁, h₂⟩
    · exact messages_served hdate (route_segment hpath) h₁
    · simp only [if_neg hmethod] at h₂
      obtain ⟨rfl, rfl⟩ := runs_result h₂
      rw [List.append_nil]
      exact (messages_served hdate (route_segment hpath) h₁).changed rfl rfl
  · obtain ⟨rfl, rfl⟩ := runs_result h
    exact .refused (by simp)

/-- A new identifier is about no message. -/
theorem Served.identified (h : Served route segment body l response) (x : Option Uuid) :
    Served route segment body (⟨.newIdentifier, x⟩ :: l) response where
  once := by
    rw [List.countP_cons]
    exact h.once
  admitted t y hy := by
    rcases List.mem_cons.1 hy with hy | hy
    · cases hy
    · obtain ⟨m, u, a, ha⟩ := h.admitted t y hy
      exact ⟨m, u, a, { ha with
        owner := List.mem_cons_of_mem _ ha.owner, application := List.mem_cons_of_mem _ ha.application }⟩
  status p hp := by
    rw [h.status p hp]
    refine ⟨fun ⟨t, ht⟩ => ⟨t, List.mem_cons_of_mem _ ht⟩, fun ⟨t, ht⟩ => ?_⟩
    rcases List.mem_cons.1 ht with ht | ht
    · cases ht
    · exact ⟨t, ht⟩
  text := h.text

/-- **A request to take in a message is served as its token allows**, whatever the store and the queue do.
Only a request that asks what is allowed goes to no route. -/
theorem handle_served (hdate : Extraction.Dates s.ingress.date) (hmethod : r.method ≠ "OPTIONS")
    (hpath : Endpoint.ofPath? r.path = some (.messages route segment)) (h : (s.handle r).Runs l response) :
    Served route segment r.body l response := by
  have answered (r' : HttpRequest) (id : List UInt8) {l response} (hp : r'.path = r.path) (hb : r'.body = r.body)
      (h : ((s.dispatch r').bind fun p =>
        Procedure.result { p with headers := Headers.set p.headers Headers.requestId id }).Runs l response) :
      Served route segment r.body l response := by
    rw [← hb]
    rcases runs_bind h with ⟨h₁, rfl⟩ | ⟨p, l₁, l₂, rfl, h₁, h₂⟩
    · exact dispatch_served hdate (hp ▸ hpath) h₁
    · obtain ⟨rfl, rfl⟩ := runs_result h₂
      rw [List.append_nil]
      exact (dispatch_served hdate (hp ▸ hpath) h₁).changed rfl rfl
  unfold handle at h
  rw [if_neg hmethod] at h
  dsimp only at h
  split at h
  · exact answered r _ rfl rfl h
  · rcases runs_ask h with ⟨rfl, rfl⟩ | ⟨x, l', rfl, hnext⟩
    · exact Served.identified (l := []) ⟨Nat.zero_le 1, by simp, by simp, by simp⟩ none
    · have hserved := answered { r with headers := Headers.set r.headers Headers.requestId (Text.encode (Uuid.text x)) }
        (Text.encode (Uuid.text x)) rfl rfl hnext
      exact hserved.identified (some x)

/-! ## What every log has -/

/-- A property of logs, whatever is asked that is not about the queue, that taking in a message has. -/
structure Kept (s : Service) (Φ : ServiceLog → Prop) : Prop extends Log.Additive Φ where
  quiet : ∀ l : ServiceLog, (∀ x ∈ l, asksEnqueue x.1 = false) → Φ l
  respond : ∀ sub l r, (s.ingress.respond sub).Runs l r → Φ (Log.translate (B := ServiceAsk.Answer) ServiceAsk.ingress l)

namespace Kept

variable {Φ : ServiceLog → Prop}

theorem messages (h : s.Kept Φ) (r : HttpRequest) (route : Route) (segment : Option String) :
    (s.messages r route segment).Leaves Φ := by
  unfold Service.messages
  split
  · exact h.result _
  split
  · exact h.result _
  refine h.bind (fun l y hruns => ?_) fun y => ?_
  · obtain ⟨l', hwork, rfl⟩ := runs_through (f := ServiceAsk.ingress) hruns
    exact h.respond _ l' y hwork
  · cases y <;> exact h.result _

theorem endpoint (h : s.Kept Φ) (r : HttpRequest) (e : Endpoint) : (s.endpoint r e).Leaves Φ := by
  cases e with
  | live => exact h.result _
  | ready =>
    have honly : s.ready.Only (A := ServiceAsk.Answer) (asksEnqueue · = false) := ⟨rfl, fun _ => ⟨rfl, fun _ => trivial⟩⟩
    exact fun l y hruns => h.quiet l (honly.runs hruns)
  | metrics =>
    have honly : Service.metrics.Only (A := ServiceAsk.Answer) (asksEnqueue · = false) := by
      refine ⟨rfl, fun stats => ?_⟩
      cases stats with
      | ok _ => exact ⟨rfl, fun _ => ⟨rfl, fun _ => trivial⟩⟩
      | error _ => exact ⟨rfl, fun _ => trivial⟩
    exact fun l y hruns => h.quiet l (honly.runs hruns)
  | messages route segment => exact h.messages r route segment

theorem dispatch (h : s.Kept Φ) (r : HttpRequest) : (s.dispatch r).Leaves Φ := by
  unfold Service.dispatch
  dsimp only
  split
  · exact h.bind (h.result _) fun _ => h.result _
  split
  · exact h.bind (h.result _) fun _ => h.result _
  split
  · exact h.bind (h.endpoint r _) fun _ => h.result _
  · exact h.bind (h.result _) fun _ => h.result _

/-- All that a request leads to has the property. -/
theorem handle (h : s.Kept Φ) (r : HttpRequest) : (s.handle r).Leaves Φ := by
  have answered (id : List UInt8) (r : HttpRequest) :
      ((s.dispatch r).bind fun p => .result { p with headers := Headers.set p.headers Headers.requestId id }).Leaves Φ :=
    h.bind (h.dispatch r) fun _ => h.result _
  unfold Service.handle
  split
  · exact h.result _
  dsimp only
  split
  · exact answered _ _
  · refine h.bind (fun l y hruns => ?_) fun x => answered _ _
    obtain rfl := runs_query hruns
    exact h.quiet _ (by simp [asksEnqueue])

end Kept

/-- A service that reads no dates, and a request of a user to it. -/
def sample : Service := { ingress := { date := fun _ => none }, repositoryName := "static", queueName := "memory" }

def sampleRequest : HttpRequest where
  method := "POST"
  path := "/1/messages.json"
  body := [123, 34, 116, 111, 107, 101, 110, 34, 58, 34, 97, 34, 44, 34, 109, 101, 115, 115, 97, 103, 101, 34, 58, 34, 104,
    105, 34, 125]

/-- Surroundings in which all is well. -/
def sampleAnswer : (q : ServiceAsk) → q.Answer
  | .ingress (.store (.userOf _)) => some (.ok { key := "u" })
  | .ingress (.store (.application _ token)) => some (.ok { token, target := "t" })
  | .ingress (.store .targets) | .ingress (.store (.target _)) => none
  | .ingress (.store (.increment _ _)) | .ingress (.store (.saveInput _ _)) | .ingress (.store .health) => some (.ok ())
  | .ingress (.enqueue _) => .ok ()
  | .ingress .stamp => (⟨7⟩, .epoch)
  | .ingress (.count _) => ()
  | .health => .ok ()
  | .stats => .ok {}
  | .depth _ => ()
  | .metrics => ""
  | .newIdentifier => ⟨7⟩

theorem sample_served : ∃ l p, (sample.handle sampleRequest).Runs l (some p) ∧ p.status = 200 ∧ Queued l ∧
    Served .pushover none sampleRequest.body l (some p) := by
  have hruns := runs_logWith sampleAnswer (sample.handle sampleRequest)
  have hpath : Endpoint.ofPath? sampleRequest.path = some (.messages .pushover none) := by decide
  have hserved := handle_served (s := sample) (r := sampleRequest) (fun _ _ h => by cases h) (by decide) hpath hruns
  have hstatus : ((sample.handle sampleRequest).run (m := Id) sampleAnswer).status = 200 := by decide +kernel
  exact ⟨_, _, hruns, hstatus, (hserved.status _ rfl).1 hstatus, hserved⟩

end Courier.Service
