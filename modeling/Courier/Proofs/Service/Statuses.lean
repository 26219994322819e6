import Courier.Proofs.Ingress.Statuses
import Courier.Proofs.Service
/-
The statuses of responses to messages, when the store answers and the queue takes
every task. A message that keeps to the limits is answered by what was sent and by
what is known of its token, never by a failure of the service. The limit of the
settings is not the only one: a body longer than the greatest that is read at all
is turned away, whatever the settings allow.
-/

namespace Courier

namespace Headers

variable {hs : Headers} {name other : String} {value : List UInt8}

theorem find?_replace (hne : other ≠ name) :
    (set.replace name value hs).find? (fun h => h.1 == other) = hs.find? fun h => h.1 == other := by
  induction hs with
  | nil => rfl
  | cons h hs ih =>
    unfold set.replace
    split
    · next hname =>
      -- all values of the name go, and none of them is one of the other
      rw [beq_iff_eq] at hname
      have hnew : (name == other) = false := by simpa using hne.symm
      rw [List.find?_cons, List.find?_cons, hname, hnew, List.find?_filter]
      refine congrArg (fun f => hs.find? f) (funext fun k => ?_)
      by_cases hk : k.1 = other
      · simp [hk, hne]
      · simp [hk]
    · rw [List.find?_cons, List.find?_cons, ih]

/-- Setting one header leaves the others as they are. -/
theorem get?_set (hne : other ≠ name) : get? (set hs name value) other = get? hs other := by
  unfold get? set
  split
  · rw [find?_replace hne]
  · rw [List.find?_append]
    have hnew : [(name, value)].find? (fun h => h.1 == other) = none := by simpa using hne.symm
    rw [hnew, Option.or_none]

end Headers

namespace Service

open Procedure

/-- Whether an answer is one of a store that has the given records, or of a queue that takes every task. -/
def Obliging (known : Roster) : (q : ServiceAsk) → q.Answer → Prop
  | .ingress q, x => Ingress.Obliging known q x
  | .health, _ | .stats, _ | .depth _, _ | .metrics, _ | .newIdentifier, _ => True

/-- Whether a request keeps to the limit of the settings, with its body and with the length that it announces. It announces
no less than it has. -/
structure Within (s : Service) (r : HttpRequest) : Prop where
  body : r.body.length ≤ s.bodyLimit
  announced : ∀ n, announced r = some n → r.body.length ≤ n ∧ n ≤ s.bodyLimit

/-- Whether a request goes by a token that is well formed and leads to nothing. Where the message is read first, it could be read. -/
def Unknown (known : Roster) (route : Route) (segment : Option String) (body : List UInt8) : Prop :=
  ∃ token, GoesBy route segment body token ∧
    (route ≠ .application → ∃ m, (Message.layout : Json.Decoder Message).run (Text.decode body) = .ok m) ∧
    Message.isPrintable token = true ∧ known.Lacks (route == .submit) token

variable {known : Roster} {s : Service} {r : HttpRequest} {route : Route} {segment : Option String}
  {P : (q : ServiceAsk) → q.Answer → Prop} {p : HttpResponse}

/-! ## The way to the message -/

theorem messages_allows (route : Route) (segment : Option String) :
    (Endpoint.messages route segment).allows "POST" = true := by
  show (Text.pieces ',' "POST").contains "POST" = true
  decide

theorem dispatch_gives (hmethod : r.method = "POST") (hpath : Endpoint.ofPath? r.path = some (.messages route segment))
    (hlimit : ∀ n, announced r = some n → n ≤ s.bodyLimit) (h : (s.dispatch r).Gives P p) :
    ∃ p', (s.messages r route segment).Gives P p' ∧ p.status = p'.status := by
  have hannounced : ((announced r).any (· > s.bodyLimit)) = false := by
    cases hn : announced r with
    | none => rfl
    | some n => simpa using hlimit n hn
  unfold dispatch at h
  simp only [hpath, hmethod, Option.any_some, messages_allows, hannounced, Bool.false_eq_true, if_false, if_true] at h
  obtain ⟨p', hp', rfl⟩ := gives_bind.1 h
  exact ⟨p', hp', rfl⟩

/-- Where the identifier of a request comes from, and the request that it stands in. -/
inductive Chosen (r : HttpRequest) : List UInt8 → HttpRequest → Prop
  | given {value : List UInt8} (h : givenId? r = some value) : Chosen r value r
  | made (h : givenId? r = none) (u : Uuid) :
    Chosen r (Text.encode u.text) { r with headers := Headers.set r.headers Headers.requestId (Text.encode u.text) }

/-- A request with its identifier is the same to all that do not ask for it. -/
theorem Chosen.same {value : List UInt8} {r' : HttpRequest} (h : Chosen r value r') :
    r'.method = r.method ∧ r'.path = r.path ∧ r'.body = r.body ∧ announced r' = announced r := by
  cases h with
  | given h => exact ⟨rfl, rfl, rfl, rfl⟩
  | made h u =>
    refine ⟨rfl, rfl, rfl, ?_⟩
    unfold announced
    rw [Headers.get?_set (by decide)]

theorem handle_cases (hmethod : r.method ≠ "OPTIONS") (h : (s.handle r).Gives P p) :
    ∃ value r' p', Chosen r value r' ∧ (s.dispatch r').Gives P p' ∧
      p = { p' with headers := Headers.set p'.headers Headers.requestId value } := by
  unfold handle at h
  rw [if_neg hmethod] at h
  dsimp only at h
  split at h
  · next value hgiven =>
    obtain ⟨_, rfl, h⟩ := gives_bind.1 h
    obtain ⟨p', hp', rfl⟩ := gives_bind.1 h
    exact ⟨value, r, p', .given hgiven, hp', rfl⟩
  · next hnone =>
    obtain ⟨u, -, h⟩ := gives_bind.1 h
    obtain ⟨_, rfl, h⟩ := gives_bind.1 h
    obtain ⟨p', hp', rfl⟩ := gives_bind.1 h
    exact ⟨_, _, p', .made hnone u, hp', rfl⟩

theorem handle_gives (hmethod : r.method = "POST") (hpath : Endpoint.ofPath? r.path = some (.messages route segment))
    (hlimit : ∀ n, announced r = some n → n ≤ s.bodyLimit) (h : (s.handle r).Gives P p) :
    ∃ r' p', r'.body = r.body ∧ announced r' = announced r ∧ (s.messages r' route segment).Gives P p' ∧
      p.status = p'.status := by
  obtain ⟨value, r', p₁, hchosen, h₁, rfl⟩ := handle_cases (by rw [hmethod]; decide) h
  obtain ⟨hm, hp, hb, ha⟩ := hchosen.same
  obtain ⟨p', hp', hstatus⟩ := dispatch_gives (hm.trans hmethod) (hp ▸ hpath) (ha ▸ hlimit) h₁
  exact ⟨r', p', hb, ha, hp', hstatus⟩

/-! ## What is said of the message -/

/-- A body that is read is judged with the token of its request. -/
theorem messages_judged (hdecoded : segment.map Text.percentDecode? ≠ some none)
    (hread : r.body.length ≤ s.readable (announced r)) (h : (s.messages r route segment).Gives (Obliging known) p) :
    ∃ x, Ingress.Judged known ⟨route, (segment.map Text.percentDecode?).join, r.headers, r.query, r.body⟩ x ∧
      p.status = Ingress.statusOf x := by
  unfold messages at h
  split at h
  · next hundecoded => exact absurd hundecoded hdecoded
  rw [if_neg (by omega)] at h
  obtain ⟨x, hx, h⟩ := gives_bind.1 h
  refine ⟨x, Ingress.respond_gives ((gives_through (f := ServiceAsk.ingress) (P := Obliging known)).1 hx), ?_⟩
  cases x with
  | ok _ =>
    obtain rfl : p = .json 200 (Envelope.accepted (requestId r)) := h
    rfl
  | error e =>
    obtain rfl : p = .json e.status (Envelope.rejected (e.clientText s.production) (requestId r)) := h
    rfl

/-- A token that cannot be read is told of before the body is looked at. -/
theorem messages_undecoded (hdecoded : segment.map Text.percentDecode? = some none)
    (h : (s.messages r route segment).Gives P p) : p.status = 400 := by
  unfold messages at h
  simp only [hdecoded] at h
  obtain rfl : p = .plain 400 _ := h
  rfl

/-- A body that is not read to its end is turned away. -/
theorem messages_oversized (hdecoded : segment.map Text.percentDecode? ≠ some none)
    (hread : s.readable (announced r) < r.body.length) (h : (s.messages r route segment).Gives P p) :
    p.status = 413 := by
  unfold messages at h
  split at h
  · next hundecoded => exact absurd hundecoded hdecoded
  rw [if_pos hread] at h
  obtain rfl : p = .plain 413 _ := h
  rfl

theorem Within.readable (h : s.Within r) (hbody : r.body.length ≤ greatestBody) :
    r.body.length ≤ s.readable (Service.announced r) := by
  have hlimit := h.body
  unfold Service.readable
  cases hn : Service.announced r with
  | none => exact Nat.le_min.2 ⟨hbody, hlimit⟩
  | some n => exact Nat.le_min.2 ⟨hbody, Nat.le_min.2 ⟨hlimit, (h.announced n hn).1⟩⟩

theorem readable_le (s : Service) (n : Option Nat) : s.readable n ≤ greatestBody := Nat.min_le_left _ _

/-! ## The token of a request -/

variable {body : List UInt8} {token token' : String}

theorem GoesBy.unique (h : GoesBy route segment body token) (h' : GoesBy route segment body token') :
    token = token' := by
  cases route with
  | pushover =>
    obtain ⟨m, hm, rfl⟩ := h
    obtain ⟨m', hm', rfl⟩ := h'
    cases hm.symm.trans hm'
    rfl
  | submit | application =>
    cases segment with
    | none => cases h
    | some raw => exact Option.some.inj (Eq.trans (Eq.symm h) h')

theorem GoesBy.decoded (h : GoesBy route segment body token) (hsegment : route = .pushover ↔ segment = none) :
    segment.map Text.percentDecode? ≠ some none := by
  intro hdecoded
  obtain ⟨raw, rfl, hraw⟩ := Option.map_eq_some_iff.1 hdecoded
  cases route with
  | pushover => simp at hsegment
  | submit | application => cases hraw.symm.trans h

/-- A message that is needed before the lookup can be read as such. -/
theorem message?_ok_iff {s : Submission} :
    (∃ sent, Ingress.message? s = .ok sent) ↔
      (s.route ≠ .application → ∃ m, (Message.layout : Json.Decoder Message).run (Text.decode s.body) = .ok m) := by
  by_cases happlication : s.route = .application
  · simp [Ingress.message?, happlication]
  · have hmessage : Ingress.message? s = (Ingress.readMessage s.body).map some := by
      simp [Ingress.message?, happlication]
    rw [hmessage]
    refine ⟨fun ⟨sent, hsent⟩ _ => ?_, fun h => ?_⟩
    · obtain ⟨m, hm, -⟩ := ok_of_map hsent
      obtain ⟨⟨m', hm', -⟩, -⟩ := Ingress.readMessage_ok hm
      exact ⟨m', hm'⟩
    · obtain ⟨m, hm⟩ := h happlication
      refine ⟨some m.clearInternal, ?_⟩
      unfold Ingress.readMessage Ingress.read
      rw [hm]
      rfl

theorem unknown_iff (hsegment : route = .pushover ↔ segment = none)
    (hdecoded : segment.map Text.percentDecode? ≠ some none) :
    Ingress.Unknown known ⟨route, (segment.map Text.percentDecode?).join, r.headers, r.query, r.body⟩ ↔
      Unknown known route segment r.body := by
  constructor
  · rintro ⟨sent, hsent, hprintable, hlacks⟩
    exact ⟨_, goesBy_tokenOf hsegment hdecoded hsent, message?_ok_iff.1 ⟨sent, hsent⟩, hprintable, hlacks⟩
  · rintro ⟨token, hgoes, hread, hprintable, hlacks⟩
    obtain ⟨sent, hsent⟩ := (message?_ok_iff (s :=
      ⟨route, (segment.map Text.percentDecode?).join, r.headers, r.query, r.body⟩)).2 hread
    obtain rfl := hgoes.unique (goesBy_tokenOf hsegment hdecoded hsent)
    exact ⟨sent, hsent, hprintable, hlacks⟩

/-! ## The statuses -/

/-- A message that is short enough to be read is taken in, wrong, or of a token that leads to nothing. -/
theorem handle_known (hmethod : r.method = "POST") (hpath : Endpoint.ofPath? r.path = some (.messages route segment))
    (hwithin : s.Within r) (hbody : r.body.length ≤ greatestBody) (h : (s.handle r).Gives (Obliging known) p) :
    (p.status = 200 ∨ p.status = 400 ∨ p.status = 404) ∧ (p.status = 404 ↔ Unknown known route segment r.body) := by
  have hsegment := route_segment hpath
  obtain ⟨r', p', hb, ha, h, hstatus⟩ := handle_gives hmethod hpath (fun n hn => (hwithin.announced n hn).2) h
  rw [hstatus]
  by_cases hdecoded : segment.map Text.percentDecode? = some none
  · rw [messages_undecoded hdecoded h]
    refine ⟨.inr (.inl rfl), ⟨fun h => ?_, fun ⟨_, hgoes, _⟩ => absurd hdecoded (hgoes.decoded hsegment)⟩⟩
    cases h
  · obtain ⟨x, hx, hxstatus⟩ := messages_judged hdecoded (by rw [hb, ha]; exact hwithin.readable hbody) h
    rw [hxstatus, ← hb, ← unknown_iff hsegment hdecoded]
    exact ⟨hx.status, hx.missing⟩

/-- A message that is too long to be read is turned away, whatever the settings allow. -/
theorem handle_oversized (hmethod : r.method = "POST") (hpath : Endpoint.ofPath? r.path = some (.messages route segment))
    (hwithin : s.Within r) (hbody : greatestBody < r.body.length) (h : (s.handle r).Gives P p) :
    p.status = if segment.map Text.percentDecode? = some none then 400 else 413 := by
  obtain ⟨r', p', hb, ha, h, hstatus⟩ := handle_gives hmethod hpath (fun n hn => (hwithin.announced n hn).2) h
  rw [hstatus]
  split
  · next hdecoded => exact messages_undecoded hdecoded h
  · next hdecoded =>
    refine messages_oversized hdecoded ?_ h
    rw [hb]
    exact Nat.lt_of_le_of_lt (readable_le s _) hbody

/-- **A message within the limits is never answered by a failure of the service.** It is taken in, or wrong, or of a
token that leads to nothing, which is the case just when the answer is 404. One that is longer than any body that is read
is turned away, if only the limit of the settings allows it to come that far. -/
theorem post_status (hmethod : r.method = "POST") (hpath : Endpoint.ofPath? r.path = some (.messages route segment))
    (hwithin : s.Within r) {l : ServiceLog} {response : Option HttpResponse} (hruns : (s.handle r).Runs l response)
    (hl : Log.Answered (Obliging known) l) :
    ∃ p, response = some p ∧
      (r.body.length ≤ greatestBody → (p.status = 200 ∨ p.status = 400 ∨ p.status = 404) ∧
        (p.status = 404 ↔ Unknown known route segment r.body)) ∧
      (greatestBody < r.body.length → p.status = if segment.map Text.percentDecode? = some none then 400 else 413) := by
  obtain ⟨p, rfl, h⟩ := gives_of_runs hruns hl
  exact ⟨p, rfl, fun hbody => handle_known hmethod hpath hwithin hbody h,
    fun hbody => handle_oversized hmethod hpath hwithin hbody h⟩

/-- A store in which every token is that of one user. -/
def sampleRoster : Roster where
  user _ := some { key := "u" }
  application _ token := some { token, target := "t" }

theorem sampleAnswer_obliging (q : ServiceAsk) : Obliging sampleRoster q (sampleAnswer q) := by
  cases q with
  | ingress q =>
    cases q with
    | store c => cases c <;> trivial
    | enqueue t => rfl
    | stamp | count c => trivial
  | health | stats | depth _ | metrics | newIdentifier => trivial

theorem sample_post_status : sample.Within sampleRequest ∧ ∃ l p, (sample.handle sampleRequest).Runs l (some p) ∧
    Log.Answered (Obliging sampleRoster) l ∧ p.status = 200 ∧
    ¬ Unknown sampleRoster .pushover none sampleRequest.body := by
  have hwithin : sample.Within sampleRequest := ⟨by decide, fun n hn => by cases hn⟩
  have hruns := runs_logWith sampleAnswer (sample.handle sampleRequest)
  have hl := answered_logWith (p := sample.handle sampleRequest) sampleAnswer_obliging
  have hpath : Endpoint.ofPath? sampleRequest.path = some (.messages .pushover none) := by decide
  obtain ⟨p, hp, hshort, -⟩ := post_status (by decide) hpath hwithin hruns hl
  have hstatus : ((sample.handle sampleRequest).run (m := Id) sampleAnswer).status = 200 := by decide +kernel
  refine ⟨hwithin, _, _, hruns, hl, hstatus, fun hunknown => ?_⟩
  have hmissing : p.status = 404 := (hshort (by decide)).2.2 hunknown
  rw [← Option.some.inj hp] at hmissing
  cases hstatus.symm.trans hmissing

/-- There are surroundings in which all is well, and still a message that is too long is turned away. -/
theorem exists_turned_away (hmethod : r.method = "POST") (hpath : Endpoint.ofPath? r.path = some (.messages .pushover none))
    (hwithin : s.Within r) (hbody : greatestBody < r.body.length) :
    ∃ l p, (s.handle r).Runs l (some p) ∧ Log.Answered (Obliging sampleRoster) l ∧ p.status = 413 := by
  have hruns := runs_logWith sampleAnswer (s.handle r)
  have hl := answered_logWith (p := s.handle r) sampleAnswer_obliging
  obtain ⟨p, hp, hgives⟩ := gives_of_runs hruns hl
  rw [hp] at hruns
  exact ⟨_, p, hruns, hl, handle_oversized hmethod hpath hwithin hbody hgives⟩

/-- A service whose settings allow long bodies, and a message with a field that is long and of no meaning. -/
def generous : Service := { sample with bodyLimit := 4194304 }

def longRequest : HttpRequest where
  method := "POST"
  path := "/1/messages.json"
  headers := [("x-request-id", [114])]
  body := [123, 34, 116, 111, 107, 101, 110, 34, 58, 34, 97, 98, 99, 34, 44, 34, 109, 101, 115, 115, 97, 103, 101, 34,
    58, 34, 104, 105, 34, 44, 34, 112, 97, 100, 34, 58, 34] ++ List.replicate 2200000 120 ++ [34, 125]

theorem longRequest_length : longRequest.body.length = 2200039 := by
  unfold longRequest
  rw [List.length_append, List.length_append, List.length_replicate]
  rfl

/-- The settings alone do not let a message through. -/
theorem not_every_post_read : ¬ ∀ (known : Roster) (s : Service) (r : HttpRequest) (route : Route)
    (segment : Option String) (l : ServiceLog) (response : Option HttpResponse), r.method = "POST" →
    Endpoint.ofPath? r.path = some (.messages route segment) → s.Within r → (s.handle r).Runs l response →
    Log.Answered (Obliging known) l →
    ∃ p, response = some p ∧ (p.status = 200 ∨ p.status = 400 ∨ p.status = 404) ∧
      (p.status = 404 ↔ Unknown known route segment r.body) := by
  intro hclaim
  have hwithin : generous.Within longRequest := by
    refine ⟨?_, fun n hn => by cases hn⟩
    rw [longRequest_length]
    decide
  have hlong : greatestBody < longRequest.body.length := by
    rw [longRequest_length]
    decide
  have hpath : Endpoint.ofPath? longRequest.path = some (.messages .pushover none) := by decide
  obtain ⟨l, p, hruns, hl, hturned⟩ := exists_turned_away rfl hpath hwithin hlong
  obtain ⟨p', hp, hstatus, -⟩ := hclaim sampleRoster generous longRequest .pushover none l (some p) rfl hpath hwithin hruns hl
  obtain rfl := Option.some.inj hp
  omega

end Service
end Courier
