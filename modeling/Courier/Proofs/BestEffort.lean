import Courier.Proofs.Procedure.Alike
import Courier.Proofs.Secrecy
/-
What is done for the record only. That a message came in is saved, and messages are
counted for their application; a store that refuses this, or does not answer in time,
changes nothing else. For two runs in surroundings that do the same in all other
respects, the client gets the same response and the queue the same message, and a
delivery makes the same calls of targets and ends the same way.

A new task has an identifier and a time of its own in each run, so tasks are compared
without them.
-/

namespace Courier

open Procedure

/-- Whether something is asked of a store for the record only. -/
def RepositoryCall.isAside : RepositoryCall → Bool
  | .increment _ _ | .saveInput _ _ => true
  | .userOf _ | .application _ _ | .targets | .target _ | .health => false

/-- A task without what tells it from others for the same message. -/
def Task.unmarked (t : Task) : Task := { t with id := ⟨0⟩, enqueuedAt := .epoch }

/-- All but what is asked for the record only. -/
def RepositoryCall.view : View RepositoryCall.Timely RepositoryCall.Timely :=
  fun c => if c.isAside then none else some ⟨c, id⟩

theorem RepositoryCall.view_cases (c : RepositoryCall) : view c = none ∨ view c = some ⟨c, id⟩ := by
  unfold view
  split
  · exact .inl rfl
  · exact .inr rfl

def IngressAsk.view : View IngressAsk.Answer IngressAsk.Answer
  | .store c => (RepositoryCall.view c).map fun s => ⟨.store s.1, s.2⟩
  | .enqueue t => some ⟨.enqueue t.unmarked, id⟩
  | .stamp => none
  | .count c => some ⟨.count c, id⟩

def ServiceAsk.view : View ServiceAsk.Answer ServiceAsk.Answer
  | .ingress q => (IngressAsk.view q).map fun s => ⟨.ingress s.1, s.2⟩
  | q => some ⟨q, id⟩

def WorkerAsk.view : View WorkerAsk.Answer WorkerAsk.Answer
  | .store c => (RepositoryCall.view c).map fun s => ⟨.store s.1, s.2⟩
  | q => some ⟨q, id⟩

namespace Resolver

variable {limit : Duration} {c : RepositoryCall} {missing : ResolveError}

theorem lookup_alike (hc : c.isAside = false) :
    Alike RepositoryCall.view Eq (lookup limit c missing) (lookup limit c missing) := by
  have hview : RepositoryCall.view c = some ⟨c, id⟩ := by simp only [RepositoryCall.view, hc, Bool.false_eq_true, if_false]
  rw [lookup_eq]
  exact .refl ⟨hview, fun _ => trivial⟩

/-- What is asked for the record only may come to anything. -/
theorem aside_alike (hc : c.isAside = true) :
    Alike RepositoryCall.view (fun _ _ => True) (ask limit c) (ask limit c) := by
  have hview : RepositoryCall.view c = none := by simp only [RepositoryCall.view, hc, if_true]
  refine .left hview fun x => .right hview fun y => ?_
  cases x <;> cases y <;> exact .result trivial

theorem byToken_alike (token : String) (viaSubmit : Bool) :
    Alike RepositoryCall.view Eq (byToken limit token viaSubmit) (byToken limit token viaSubmit) := by
  refine (lookup_alike rfl).bind fun user _ he => ?_
  subst he
  cases user with
  | error e => exact .result rfl
  | ok user =>
    dsimp only
    split
    · exact .result rfl
    refine (lookup_alike rfl).bind fun application _ he => ?_
    subst he
    cases application with
    | error e => exact .result rfl
    | ok application =>
      dsimp only
      split <;> exact .result rfl

theorem target_alike (a : Application) : Alike RepositoryCall.view Eq (target limit a) (target limit a) := by
  refine (lookup_alike rfl).bind fun t _ he => ?_
  subst he
  cases t <;> exact .result rfl

end Resolver

/-! ## Taking in a message -/

namespace Ingress

variable {g : Ingress}

theorem look_alike {α α' : Type} {fit : α → α' → Prop} {p : Lookups α} {p' : Lookups α'}
    (h : Alike RepositoryCall.view fit p p') : Alike IngressAsk.view fit (look p) (look p') :=
  h.renamed fun _ => rfl

/-- The identifier and the time of a new task show in nothing else. -/
theorem enqueue_alike (m : Message) : Alike IngressAsk.view Eq (enqueue m) (enqueue m) := by
  refine .left rfl fun stamp => .right rfl fun stamp' => .both rfl rfl fun x x' hx => ?_
  obtain rfl : x = x' := hx
  cases x <;> exact .result rfl

theorem takeIn_alike (s : Submission) (token : String) (u : User) (m : Message) (pretty : String) :
    Alike IngressAsk.view Eq (g.takeIn s token u m pretty) (g.takeIn s token u m pretty) := by
  refine (look_alike (Resolver.aside_alike rfl)).bind fun _ _ _ => ?_
  cases prepare m token u.key (s.route == .submit) with
  | error e => exact .result rfl
  | ok m =>
    refine (enqueue_alike m).bind fun x _ he => ?_
    subst he
    cases x with
    | error e => exact .result rfl
    | ok _ =>
      refine .both rfl rfl fun _ _ _ => ?_
      exact (look_alike (Resolver.aside_alike rfl)).bind fun _ _ _ => .result rfl

theorem process_alike (s : Submission) : Alike IngressAsk.view Eq (g.process s) (g.process s) := by
  unfold process
  cases message? s with
  | error e => exact .result rfl
  | ok sent =>
    dsimp only
    split
    · exact .result rfl
    refine (look_alike (Resolver.byToken_alike _ _)).bind fun found _ he => ?_
    subst he
    cases found with
    | error e => exact .result rfl
    | ok found =>
      cases sent with
      | some m => exact takeIn_alike s _ _ m _
      | none =>
        dsimp only
        split
        · exact .result rfl
        · exact takeIn_alike s _ _ _ _

theorem respond_alike (s : Submission) : Alike IngressAsk.view Eq (g.respond s) (g.respond s) := by
  refine (process_alike s).bind fun r _ he => ?_
  subst he
  exact .both rfl rfl fun _ _ _ => .result rfl

end Ingress

namespace Service

variable {s : Service} {r : HttpRequest}

theorem messages_alike (route : Route) (token : Option String) :
    Alike ServiceAsk.view Eq (s.messages r route token) (s.messages r route token) := by
  unfold messages
  split
  · exact .result rfl
  split
  · exact .result rfl
  refine Alike.bind ((Ingress.respond_alike _).renamed fun _ => rfl) fun x _ he => ?_
  subst he
  cases x <;> exact .result rfl

theorem endpoint_alike (e : Endpoint) : Alike ServiceAsk.view Eq (s.endpoint r e) (s.endpoint r e) := by
  cases e with
  | live => exact .result rfl
  | ready => exact .refl ⟨rfl, fun _ => ⟨rfl, fun _ => trivial⟩⟩
  | metrics =>
    refine .refl ⟨rfl, fun stats => ?_⟩
    cases stats with
    | ok _ => exact ⟨rfl, fun _ => ⟨rfl, fun _ => trivial⟩⟩
    | error _ => exact ⟨rfl, fun _ => trivial⟩
  | messages route token => exact messages_alike route token

theorem dispatch_alike (r : HttpRequest) : Alike ServiceAsk.view Eq (s.dispatch r) (s.dispatch r) := by
  unfold dispatch
  dsimp only
  split
  · exact .result rfl
  split
  · exact .result rfl
  split
  · refine (endpoint_alike _).bind fun response _ he => ?_
    subst he
    exact .result rfl
  · exact .result rfl

theorem handle_alike (s : Service) (r : HttpRequest) : Alike ServiceAsk.view Eq (s.handle r) (s.handle r) := by
  have answered (id : List UInt8) (r : HttpRequest) :
      Alike ServiceAsk.view Eq
        ((s.dispatch r).bind fun p => .result { p with headers := Headers.set p.headers Headers.requestId id })
        ((s.dispatch r).bind fun p => .result { p with headers := Headers.set p.headers Headers.requestId id }) := by
    refine (dispatch_alike r).bind fun response _ he => ?_
    subst he
    exact .result rfl
  unfold handle
  split
  · exact .result rfl
  dsimp only
  split
  · exact answered _ _
  · refine .both rfl rfl fun x x' hx => ?_
    obtain rfl : x = x' := hx
    exact answered _ _

/-- What was to be put on the queue: kinds, written messages and attempts. -/
def puts (l : ServiceLog) : List (String × String × Nat) :=
  l.filterMap fun
    | ⟨.ingress (.enqueue t), _⟩ => some (t.kind, t.payload, t.attempts)
    | _ => none

/-- What is to be put on the queue is seen. -/
theorem puts_seen (l : ServiceLog) : puts (l.seen ServiceAsk.view) = puts l := by
  unfold puts Log.seen
  rw [List.filterMap_filterMap]
  refine congrArg (List.filterMap · l) (funext fun ⟨q, x⟩ => ?_)
  cases q with
  | ingress q =>
    cases q with
    | store c => cases c <;> rfl
    | enqueue t | stamp | count c => rfl
  | health | stats | depth s | metrics | newIdentifier => rfl

end Service

/-! ## Deliveries -/

/-- What a delivery asks for when the targets have a part in it. -/
inductive DeliveryAsk
  | store (c : RepositoryCall)
  | call (target : String) (c : BackendCall)
  | count (c : Count)
  | record (r : TaskRecord)

def DeliveryAsk.Answer : DeliveryAsk → Type
  | .store c => c.Timely
  | .call _ c => BackendAnswer c
  | .count _ | .record _ => Unit

def DeliveryAsk.view : View DeliveryAsk.Answer DeliveryAsk.Answer
  | .store c => (RepositoryCall.view c).map fun s => ⟨.store s.1, s.2⟩
  | q => some ⟨q, id⟩

abbrev DeliveryLog : Type := Log DeliveryAsk.Answer

namespace DeliveryAsk

/-- The calls of targets, with what came of them. -/
def calls (l : DeliveryLog) : List (String × Invocation) :=
  l.filterMap fun
    | ⟨.call id c, x⟩ => some (id, ⟨c, x⟩)
    | _ => none

theorem calls_seen (l : DeliveryLog) : calls (l.seen DeliveryAsk.view) = calls l := by
  unfold calls Log.seen
  rw [List.filterMap_filterMap]
  refine congrArg (List.filterMap · l) (funext fun ⟨q, x⟩ => ?_)
  cases q with
  | store c => cases c <;> rfl
  | call id c => cases x <;> rfl
  | count c | record r => rfl

/-- A step on a target that is in a state. A delivery leaves the state as it is. -/
def onTarget (states : String → Lifecycle) : (q : RegistryStep) → Procedure DeliveryAsk DeliveryAsk.Answer q.Answer
  | .on id s => ((s.run (states id)).through fun c => query (A := DeliveryAsk.Answer) (.call id c)).bind fun o => .result o.1
  | .count c => query (A := DeliveryAsk.Answer) (.count c)

/-- What a worker asks for, with the targets of a registry that are in some states. -/
def ofWorker (g : Registry) (states : String → Lifecycle) : (q : WorkerAsk) → Procedure DeliveryAsk DeliveryAsk.Answer q.Answer
  | .store c => query (A := DeliveryAsk.Answer) (.store c)
  | .deliver id m args => (g.execute id m args).through (onTarget states)
  | .record r => query (A := DeliveryAsk.Answer) (.record r)

theorem onTarget_alike (states : String → Lifecycle) (q : RegistryStep) :
    Alike DeliveryAsk.view Eq (onTarget states q) (onTarget states q) := by
  cases q with
  | on id s =>
    have hrun : Alike (fun c => some ⟨c, fun x => x⟩) Eq (s.run (states id)) (s.run (states id)) := .refl (.of_all fun _ => rfl)
    refine Alike.bind (hrun.renamed fun _ => rfl) fun o _ he => ?_
    subst he
    exact .result rfl
  | count c => exact .refl ⟨rfl, fun _ => trivial⟩

theorem ofWorker_alike (g : Registry) (states : String → Lifecycle) {α α' : Type} {fit : α → α' → Prop} {p : WorkerWork α}
    {p' : WorkerWork α'} (h : Alike WorkerAsk.view fit p p') :
    Alike DeliveryAsk.view fit (p.through (ofWorker g states)) (p'.through (ofWorker g states)) := by
  refine h.through_hidden fun q => ?_
  cases q with
  | store c =>
    have hworker : WorkerAsk.view (.store c) = (RepositoryCall.view c).map fun s => ⟨.store s.1, s.2⟩ := rfl
    have hdelivery : DeliveryAsk.view (.store c) = (RepositoryCall.view c).map fun s => ⟨.store s.1, s.2⟩ := rfl
    rcases RepositoryCall.view_cases c with hc | hc
    · rw [hc] at hworker hdelivery
      exact .inl ⟨hworker, hdelivery, fun _ => trivial⟩
    · rw [hc] at hworker hdelivery
      exact .inr ⟨hworker, .refl ⟨hdelivery, fun _ => trivial⟩⟩
  | deliver id m args =>
    have hexecute : Alike (fun q => some ⟨q, fun x => x⟩) Eq (g.execute id m args) (g.execute id m args) :=
      .refl (.of_all fun _ => rfl)
    exact .inr ⟨rfl, hexecute.through_hidden fun q => .inr ⟨rfl, onTarget_alike states q⟩⟩
  | record r => exact .inr ⟨rfl, .refl ⟨rfl, fun _ => trivial⟩⟩

end DeliveryAsk

namespace Worker

variable {w : Worker}

theorem look_alike {α α' : Type} {fit : α → α' → Prop} {p : Lookups α} {p' : Lookups α'}
    (h : Alike RepositoryCall.view fit p p') : Alike WorkerAsk.view fit (look p) (look p') :=
  h.renamed fun _ => rfl

theorem send_alike (m : Message) (a : Application) (r : ResolvedTarget) :
    Alike WorkerAsk.view Eq (w.send m a r) (w.send m a r) := by
  unfold send
  split
  · exact .result rfl
  split
  · exact .result rfl
  refine .both rfl rfl fun x x' hx => ?_
  obtain rfl : x = x' := hx
  cases x with
  | error e => exact .result rfl
  | ok _ =>
    dsimp only
    split
    · exact .result rfl
    · exact (look_alike (Resolver.aside_alike rfl)).bind fun _ _ _ => .result rfl

theorem process_alike (w : Worker) (m : Message) : Alike WorkerAsk.view Eq (w.process m) (w.process m) := by
  refine (look_alike (Resolver.lookup_alike rfl)).bind fun a _ he => ?_
  subst he
  cases a with
  | error e => exact .result rfl
  | ok a =>
    dsimp only
    split
    · exact .result rfl
    refine (look_alike (Resolver.target_alike a)).bind fun r _ he => ?_
    subst he
    cases r with
    | error e => exact .result rfl
    | ok r =>
      dsimp only
      split
      · exact .result rfl
      · exact send_alike m a r

theorem handle_alike (w : Worker) (t : Task) : Alike WorkerAsk.view Eq (w.handle t) (w.handle t) := by
  have recorded (v : Except TaskError TaskOutcome) : Alike WorkerAsk.view Eq
      (.ask (.record (.of v)) fun _ => .result (reply v)) (.ask (.record (.of v)) fun _ => .result (reply v)) :=
    .refl ⟨rfl, fun _ => trivial⟩
  cases ht : decode t with
  | ok m =>
    rw [handle_eq ht]
    refine (process_alike w m).bind fun v _ he => ?_
    subst he
    exact recorded v
  | error e =>
    unfold handle
    rw [ht]
    exact recorded (.error e)

end Worker

/-! ## Two runs -/

/-- **What is asked for the record only changes nothing.** Of two runs whose surroundings answer everything else
alike, in whatever way they answer that, requests have the same response and put the same on the queue; and
deliveries have the same outcome, make the same calls with the same results, and leave the task to be settled alike. -/
theorem asides_change_nothing :
    (∀ (s : Service) (request : HttpRequest) l l' res res', Twins ServiceAsk.view (s.handle request) l l' res res' →
      res = res' ∧ Service.puts l = Service.puts l') ∧
    (∀ (w : Worker) (g : Registry) (states : String → Lifecycle) (m : Message) l l' v v',
      Twins DeliveryAsk.view ((w.process m).through (DeliveryAsk.ofWorker g states)) l l' v v' →
        v = v' ∧ DeliveryAsk.calls l = DeliveryAsk.calls l') ∧
    ∀ (w : Worker) (g : Registry) (states : String → Lifecycle) (t : Task) l l' r r',
      Twins DeliveryAsk.view ((w.handle t).through (DeliveryAsk.ofWorker g states)) l l' r r' →
        r = r' ∧ DeliveryAsk.calls l = DeliveryAsk.calls l' ∧
          ∀ (c : ConsumerConfig) draw, r.map (c.settlement draw t) = r'.map (c.settlement draw t) := by
  refine ⟨fun s request l l' res res' h => ?_, fun w g states m l l' v v' h => ?_, fun w g states t l l' r r' h => ?_⟩
  · obtain ⟨hseen, rfl⟩ := h.same (Service.handle_alike s request)
    exact ⟨rfl, by rw [← Service.puts_seen l, hseen, Service.puts_seen]⟩
  · obtain ⟨hseen, rfl⟩ := h.same (DeliveryAsk.ofWorker_alike g states (Worker.process_alike w m))
    exact ⟨rfl, by rw [← DeliveryAsk.calls_seen l, hseen, DeliveryAsk.calls_seen]⟩
  · obtain ⟨hseen, rfl⟩ := h.same (DeliveryAsk.ofWorker_alike g states (Worker.handle_alike w t))
    exact ⟨rfl, by rw [← DeliveryAsk.calls_seen l, hseen, DeliveryAsk.calls_seen], fun _ _ => rfl⟩

/-! ## A store that takes nothing down -/

/-- Surroundings in which all is well but for what is asked for the record only. -/
def Service.sampleForgetful : (q : ServiceAsk) → q.Answer
  | .ingress (.store (.saveInput _ _)) => none
  | .ingress (.store (.increment _ _)) => some (.error (.unavailable "down"))
  | .ingress .stamp => (⟨8⟩, .epoch)
  | q => Service.sampleAnswer q

def DeliveryAsk.sampleAnswer : (q : DeliveryAsk) → q.Answer
  | .store c => Worker.sampleAnswer (.store c)
  | .call _ _ => .ok ()
  | .count _ | .record _ => ()

def DeliveryAsk.sampleForgetful : (q : DeliveryAsk) → q.Answer
  | .store (.increment _ _) => none
  | q => sampleAnswer q

theorem Service.sampleAnswer_shown (q o : ServiceAsk) (f : q.Answer → o.Answer) (h : ServiceAsk.view q = some ⟨o, f⟩) :
    f (Service.sampleAnswer q) = Service.sampleAnswer o ∧ f (Service.sampleForgetful q) = Service.sampleAnswer o := by
  cases q with
  | ingress q =>
    cases q with
    | store c => cases c <;> cases h <;> exact ⟨rfl, rfl⟩
    | enqueue | stamp | count => cases h <;> exact ⟨rfl, rfl⟩
  | health | stats | depth | metrics | newIdentifier =>
    cases h
    exact ⟨rfl, rfl⟩

theorem DeliveryAsk.sampleAnswer_shown (q o : DeliveryAsk) (f : q.Answer → o.Answer) (h : DeliveryAsk.view q = some ⟨o, f⟩) :
    f (sampleAnswer q) = sampleAnswer o ∧ f (sampleForgetful q) = sampleAnswer o := by
  cases q with
  | store c => cases c <;> cases h <;> exact ⟨rfl, rfl⟩
  | call | count | record =>
    cases h
    exact ⟨rfl, rfl⟩

/-- The store that takes nothing down gets the message as far as the other one, and delivered as well. -/
theorem sample_forgotten :
    (∃ l l' p, Twins ServiceAsk.view (Service.sample.handle Service.sampleRequest) l l' (some p) (some p) ∧
      l' = (Service.sample.handle Service.sampleRequest).logWith Service.sampleForgetful ∧ p.status = 200 ∧
      Service.puts l = Service.puts l') ∧
    ∃ l l' r, Twins DeliveryAsk.view
        ((Worker.sample.handle Worker.sampleTask).through (DeliveryAsk.ofWorker ⟨[("t", .xmpp)]⟩ fun _ => .running)) l l' r r ∧
      l' = ((Worker.sample.handle Worker.sampleTask).through (DeliveryAsk.ofWorker ⟨[("t", .xmpp)]⟩ fun _ => .running)).logWith
        DeliveryAsk.sampleForgetful ∧ r = some (.ok ()) ∧ DeliveryAsk.calls l = DeliveryAsk.calls l' := by
  have hserved := twins_logWith (fun q o f h => (Service.sampleAnswer_shown q o f h).1)
    (fun q o f h => (Service.sampleAnswer_shown q o f h).2) (Service.sample.handle Service.sampleRequest)
  have hdelivered := twins_logWith (fun q o f h => (DeliveryAsk.sampleAnswer_shown q o f h).1)
    (fun q o f h => (DeliveryAsk.sampleAnswer_shown q o f h).2)
    ((Worker.sample.handle Worker.sampleTask).through (DeliveryAsk.ofWorker ⟨[("t", .xmpp)]⟩ fun _ => .running))
  obtain ⟨hresponse, hputs⟩ := asides_change_nothing.1 _ _ _ _ _ _ hserved
  obtain ⟨hend, hcalls, -⟩ := asides_change_nothing.2.2 _ _ _ _ _ _ _ _ hdelivered
  have hstatus : ((Service.sample.handle Service.sampleRequest).run (m := Id) Service.sampleAnswer).status = 200 := by
    decide +kernel
  exact ⟨⟨_, _, _, hresponse ▸ hserved, rfl, hstatus, hputs⟩, ⟨_, _, _, hend ▸ hdelivered, rfl, rfl, hcalls⟩⟩

end Courier
