import Courier.Proofs.BestEffort
/-
What is told of failures in production. A lookup that fails and a queue that refuses a task have
a cause and a text of their own, which go through several hands until a response is made of them.
In production nothing of that is left in the response: of two runs in surroundings where the same
is found, the same is missing and the same fails, the client gets the same, however different the
failures are.

A new task has an identifier and a time of its own in each run, so tasks are compared without them.
-/

namespace Courier

open Procedure

/-- What asking for something came to, without the cause of a failure. -/
inductive Upshot (α : Type)
  | done (a : α)
  | notFound
  | failed

/-- Outcomes that differ at most in what went wrong, and that sounds the same. -/
inductive Sounds {ε τ α : Type} (told : ε → τ) : Except ε α → Except ε α → Prop
  | ok (a : α) : Sounds told (.ok a) (.ok a)
  | error {e e' : ε} (h : told e = told e') : Sounds told (.error e) (.error e')

theorem Sounds.of_told {ε τ α : Type} {told : ε → τ} {x x' : Except ε α} (h : x.mapError told = x'.mapError told) :
    Sounds told x x' := by
  cases x with
  | error e =>
    cases x' with
    | error e' => exact .error (Except.error.inj h)
    | ok a' => cases h
  | ok a =>
    cases x' with
    | error e' => cases h
    | ok a' =>
      cases h
      exact .ok a

/-- What the client is told of a refusal in production: the status of the response, and its text. -/
def Refusal.told (e : Refusal) : Nat × String := (e.status, e.clientText true)

def ResolveError.told (e : ResolveError) : Nat × String := (Refusal.ofResolve e).told

/-! ## What is seen of the surroundings -/

/-- What an answer of a store, or the lack of one, comes to. -/
def RepositoryCall.upshot {c : RepositoryCall} : c.Timely → Upshot c.Result
  | some (.ok a) => .done a
  | some (.error .notFound) => .notFound
  | some (.error _) => .failed
  | none => .failed

/-- What an answer of the queue comes to. -/
def QueueError.upshot : Except QueueError Unit → Upshot Unit
  | .ok a => .done a
  | .error _ => .failed

def IngressAsk.Gist : IngressAsk → Type
  | .store c => Upshot c.Result
  | .enqueue _ => Upshot Unit
  | .stamp => Uuid × Calendar.Moment
  | .count _ => Unit

def ServiceAsk.Gist : ServiceAsk → Type
  | .ingress q => q.Gist
  | q => q.Answer

/-- All that is asked of a store, and what came of it. -/
def RepositoryCall.gist : View RepositoryCall.Timely fun c : RepositoryCall => Upshot c.Result :=
  fun c => some ⟨c, upshot⟩

def IngressAsk.gist : View IngressAsk.Answer IngressAsk.Gist
  | .store c => (RepositoryCall.gist c).map fun s => ⟨.store s.1, s.2⟩
  | .enqueue t => some ⟨.enqueue t.unmarked, QueueError.upshot⟩
  | .stamp => none
  | .count c => some ⟨.count c, id⟩

def ServiceAsk.gist : View ServiceAsk.Answer ServiceAsk.Gist
  | .ingress q => (IngressAsk.gist q).map fun s => ⟨.ingress s.1, s.2⟩
  | .health => some ⟨.health, id⟩
  | .stats => some ⟨.stats, id⟩
  | .depth s => some ⟨.depth s, id⟩
  | .metrics => some ⟨.metrics, id⟩
  | .newIdentifier => some ⟨.newIdentifier, id⟩

/-! ## Lookups -/

namespace Resolver

variable {limit : Duration} {c : RepositoryCall} {missing : ResolveError}

/-- What is heard of a lookup that came to something. -/
def heard {α : Type} (missing : ResolveError) : Upshot α → Except (Nat × String) α
  | .done a => .ok a
  | .notFound => .error missing.told
  | .failed => .error (503, "Service temporarily unavailable")

/-- No more is heard of a lookup than what it came to. -/
theorem found_heard (x : c.Timely) :
    (found limit missing x).mapError ResolveError.told = heard missing (RepositoryCall.upshot x) := by
  match x with
  | none | some (.ok _) => rfl
  | some (.error e) => cases e <;> rfl

theorem found_sounds {x x' : c.Timely} (h : RepositoryCall.upshot x = RepositoryCall.upshot x') :
    Sounds ResolveError.told (found limit missing x) (found limit missing x') :=
  .of_told (by rw [found_heard, found_heard, h])

theorem lookup_masked :
    Alike RepositoryCall.gist (Sounds ResolveError.told) (lookup limit c missing) (lookup limit c missing) := by
  rw [lookup_eq]
  exact .both rfl rfl fun x x' hx => .result (found_sounds hx)

/-- What is asked for the record only may come to anything. -/
theorem ask_masked : Alike RepositoryCall.gist (fun _ _ => True) (ask limit c) (ask limit c) :=
  .both rfl rfl fun x x' _ => by cases x <;> cases x' <;> exact .result trivial

theorem byToken_masked (token : String) (viaSubmit : Bool) :
    Alike RepositoryCall.gist (Sounds ResolveError.told) (byToken limit token viaSubmit) (byToken limit token viaSubmit) := by
  refine lookup_masked.bind fun user user' huser => ?_
  cases huser with
  | error htold => exact .result (.error htold)
  | ok user =>
    dsimp only
    split
    · exact .result (.error rfl)
    refine lookup_masked.bind fun application application' happlication => ?_
    cases happlication with
    | error htold => exact .result (.error htold)
    | ok application =>
      dsimp only
      split
      · exact .result (.error rfl)
      · exact .result (.ok _)

end Resolver

/-! ## Taking in a message -/

namespace Ingress

variable {g : Ingress}

theorem look_masked {α α' : Type} {fit : α → α' → Prop} {p : Lookups α} {p' : Lookups α'}
    (h : Alike RepositoryCall.gist fit p p') : Alike IngressAsk.gist fit (look p) (look p') :=
  h.renamed fun _ => rfl

/-- Whatever the queue refuses a task for sounds the same. -/
theorem enqueue_masked (m : Message) : Alike IngressAsk.gist (Sounds Refusal.told) (enqueue m) (enqueue m) := by
  refine .left rfl fun stamp => .right rfl fun stamp' => .both rfl rfl fun x x' hx => ?_
  cases x <;> cases x' <;> cases hx
  · exact .result (.error rfl)
  · exact .result (.ok ())

theorem takeIn_masked (s : Submission) (token : String) (u : User) (m : Message) (pretty : String) :
    Alike IngressAsk.gist (Sounds Refusal.told) (g.takeIn s token u m pretty) (g.takeIn s token u m pretty) := by
  refine (look_masked Resolver.ask_masked).bind fun _ _ _ => ?_
  cases prepare m token u.key (s.route == .submit) with
  | error e => exact .result (.error rfl)
  | ok m =>
    refine (enqueue_masked m).bind fun x x' hx => ?_
    cases hx with
    | error htold => exact .result (.error htold)
    | ok _ =>
      refine .both rfl rfl fun _ _ _ => ?_
      exact (look_masked Resolver.ask_masked).bind fun _ _ _ => .result (.ok ())

theorem process_masked (s : Submission) : Alike IngressAsk.gist (Sounds Refusal.told) (g.process s) (g.process s) := by
  unfold process
  cases message? s with
  | error e => exact .result (.error rfl)
  | ok sent =>
    dsimp only
    split
    · exact .result (.error rfl)
    refine (look_masked (Resolver.byToken_masked _ _)).bind fun found found' hfound => ?_
    cases hfound with
    | error htold => exact .result (.error htold)
    | ok found =>
      cases sent with
      | some m => exact takeIn_masked s _ _ m _
      | none =>
        dsimp only
        split
        · exact .result (.error rfl)
        · exact takeIn_masked s _ _ _ _

theorem respond_masked (s : Submission) : Alike IngressAsk.gist (Sounds Refusal.told) (g.respond s) (g.respond s) := by
  refine (process_masked s).bind fun x x' hx => ?_
  cases hx with
  | error htold => exact .both rfl rfl fun _ _ _ => .result (.error htold)
  | ok _ => exact .both rfl rfl fun _ _ _ => .result (.ok ())

end Ingress

namespace Service

variable {s : Service} {r : HttpRequest} {route : Route} {segment : Option String}

theorem messages_masked (hs : s.production = true) (r : HttpRequest) (route : Route) (segment : Option String) :
    Alike ServiceAsk.gist Eq (s.messages r route segment) (s.messages r route segment) := by
  unfold messages
  split
  · exact .result rfl
  split
  · exact .result rfl
  refine Alike.bind ((Ingress.respond_masked _).renamed fun _ => rfl) fun x x' hx => ?_
  cases hx with
  | ok _ => exact .result rfl
  | @error e e' htold =>
    obtain ⟨hstatus, htext⟩ := Prod.mk.inj htold
    refine .result ?_
    show HttpResponse.json e.status _ = .json e'.status _
    rw [hs, hstatus, htext]

theorem dispatch_masked (hs : s.production = true)
    (hpath : Endpoint.ofPath? r.path = some (.messages route segment)) :
    Alike ServiceAsk.gist Eq (s.dispatch r) (s.dispatch r) := by
  unfold dispatch
  simp only [hpath]
  split
  · exact .result rfl
  split
  · refine (messages_masked hs r route segment).bind fun response _ he => ?_
    subst he
    exact .result rfl
  · exact .result rfl

theorem handle_masked (hs : s.production = true) (hpath : Endpoint.ofPath? r.path = some (.messages route segment)) :
    Alike ServiceAsk.gist Eq (s.handle r) (s.handle r) := by
  have answered (id : List UInt8) (r' : HttpRequest) (hp : r'.path = r.path) :
      Alike ServiceAsk.gist Eq
        ((s.dispatch r').bind fun p => .result { p with headers := Headers.set p.headers Headers.requestId id })
        ((s.dispatch r').bind fun p => .result { p with headers := Headers.set p.headers Headers.requestId id }) := by
    refine (dispatch_masked hs (hp ▸ hpath)).bind fun response _ he => ?_
    subst he
    exact .result rfl
  unfold handle
  split
  · exact .result rfl
  dsimp only
  split
  · exact answered _ _ rfl
  · refine .both rfl rfl fun x x' hx => ?_
    obtain rfl : x = x' := hx
    exact answered _ { r with headers := Headers.set r.headers Headers.requestId (Text.encode (Uuid.text x)) } rfl

/-- **In production nothing is given away of what fails inside.** Of two runs of a request to take in a message, in
surroundings where the same is found, the same is missing and the same fails, both have the same response or both have
none, whatever the failures are. -/
theorem failures_masked {mode : String} (hmode : mode = "production" ∨ mode = "prod")
    (hs : s.production = Refusal.isProduction (some mode))
    (hpath : Endpoint.ofPath? r.path = some (.messages route segment)) {l l' : ServiceLog} {p p' : Option HttpResponse}
    (h : Twins ServiceAsk.gist (s.handle r) l l' p p') : p = p' := by
  have hproduction : s.production = true := by
    rw [hs]
    rcases hmode with rfl | rfl <;> decide
  exact (h.same (handle_masked hproduction hpath)).2

/-! ## Two failures of one kind -/

/-- A service in production. -/
def guarded : Service := { sample with production := true }

/-- Surroundings in which the record of a request is not saved, and the queue takes no task. -/
def sampleRefusing : (q : ServiceAsk) → q.Answer
  | .ingress (.store (.saveInput _ _)) => none
  | .ingress (.enqueue _) => .error (.unavailable "no queue")
  | q => sampleAnswer q

/-- The same with other causes, at another time. -/
def sampleLoading : (q : ServiceAsk) → q.Answer
  | .ingress (.store (.saveInput _ _)) => some (.error (.database .closed))
  | .ingress (.enqueue _) => .error (.redis (.reported "LOADING Redis is loading"))
  | .ingress .stamp => (⟨8⟩, .epoch)
  | q => sampleAnswer q

/-- What both come to. -/
def sampleUpshot : (q : ServiceAsk) → q.Gist
  | .ingress (.store (.saveInput _ _)) => .failed
  | .ingress (.store c) => RepositoryCall.upshot (sampleAnswer (.ingress (.store c)))
  | .ingress (.enqueue _) => .failed
  | .ingress .stamp => (⟨7⟩, .epoch)
  | .ingress (.count _) => ()
  | .health => .ok ()
  | .stats => .ok {}
  | .depth _ => ()
  | .metrics => ""
  | .newIdentifier => ⟨7⟩

theorem sample_upshot (q o : ServiceAsk) (f : q.Answer → o.Gist) (h : ServiceAsk.gist q = some ⟨o, f⟩) :
    f (sampleRefusing q) = sampleUpshot o ∧ f (sampleLoading q) = sampleUpshot o := by
  cases q with
  | ingress q =>
    cases q with
    | store c => cases c <;> cases h <;> exact ⟨rfl, rfl⟩
    | enqueue | stamp | count => cases h <;> exact ⟨rfl, rfl⟩
  | health | stats | depth | metrics | newIdentifier =>
    cases h
    exact ⟨rfl, rfl⟩

/-- In production the client hears the same of both, that the message was not put on the queue; elsewhere it hears why. -/
theorem sample_masked :
    (∃ l l' p, Twins ServiceAsk.gist (guarded.handle sampleRequest) l l' (some p) (some p) ∧ p.status = 500 ∧
      l' = (guarded.handle sampleRequest).logWith sampleLoading) ∧
    ((sample.handle sampleRequest).run (m := Id) sampleRefusing).body ≠
      ((sample.handle sampleRequest).run (m := Id) sampleLoading).body := by
  have htwins := twins_logWith (fun q o f h => (sample_upshot q o f h).1) (fun q o f h => (sample_upshot q o f h).2)
    (guarded.handle sampleRequest)
  have hpath : Endpoint.ofPath? sampleRequest.path = some (.messages .pushover none) := by decide
  have hsame := failures_masked (.inr rfl) (by decide) hpath htwins
  have hstatus : ((guarded.handle sampleRequest).run (m := Id) sampleRefusing).status = 500 := by decide +kernel
  exact ⟨⟨_, _, _, hsame ▸ htwins, hstatus, rfl⟩, by decide +kernel⟩

end Service
end Courier
