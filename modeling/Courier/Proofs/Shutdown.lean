import Courier.Shutdown
import Courier.Proofs.Target.Registry
/-
What a shutdown reports. If it reports success, all targets are shut down, and none
failed at it. It does not follow that the consumer finished its work: a consumer that
broke down or was given up leaves no report, and a missing report counts as a good one.
With a report, success means what it says.
-/

namespace Courier.Registry

open Procedure Invocation

variable {α : Type}

/-- A course that comes to its end, with deliveries beside it. -/
inductive Carried (r : Registry) : RegistryWork α → Floor → α → Floor → Prop
  | done {a : α} {f : Floor} : Carried r (.result a) f a f
  | go {p p' : RegistryWork α} {a : α} {f f' f'' : Floor} (h : Goes p f p' f') (rest : Carried r p' f' a f'') :
    Carried r p f a f''
  | beside {p : RegistryWork α} {a : α} {f f' f'' : Floor} (h : Beside r f f') (rest : Carried r p f' a f'') :
    Carried r p f a f''

/-- Whether no target that was shut down between two moments failed at it. -/
def Clean (f f' : Floor) : Prop :=
  ∀ id, ∃ new, f'.calls id = new ++ f.calls id ∧ ∀ x, (⟨.shutdown, x⟩ : Invocation) ∈ new → x = some (.ok ())

section

variable {r : Registry} {f₀ f f' : Floor}

theorem Clean.refl (f : Floor) : Clean f f := fun _ => ⟨[], rfl, fun _ hx => by cases hx⟩

theorem Clean.after (h : Clean f₀ f) {id : String} {log : Log BackendAnswer} {state : Lifecycle}
    (hlog : ∀ x, ⟨.shutdown, x⟩ ∈ log → x = some (.ok ())) : Clean f₀ (f.after id log state) := by
  intro k
  obtain ⟨new, hcalls, hnew⟩ := h k
  by_cases hk : k = id
  · refine ⟨log.reverse ++ new, ?_, fun x hx => ?_⟩
    · simp only [Floor.after, if_pos hk, hcalls, List.append_assoc]
    · rcases List.mem_append.1 hx with hx | hx
      · exact hlog x (List.mem_reverse.1 hx)
      · exact hnew x hx
  · refine ⟨new, ?_, hnew⟩
    simp only [Floor.after, if_neg hk, hcalls]

/-- Deliveries shut nothing down. -/
theorem Clean.beside (h : Clean f₀ f) (hbeside : Beside r f f') : Clean f₀ f' := by
  obtain ⟨k, log, rfl, hlog⟩ := hbeside.after
  exact h.after fun x hx => absurd rfl (hlog _ x hx)

/-- How far the targets are shut down, with some that failed at it and the rest to come. -/
structure Stopping (r : Registry) (f₀ f : Floor) (failures : List (String × BackendError)) (rest : List String) : Prop where
  down : ∀ id ∈ r.ids, id ∉ rest → f.states id = .shutdown
  clean : failures = [] → Clean f₀ f

theorem Stopping.beside {failures : List (String × BackendError)} {rest : List String}
    (h : Stopping r f₀ f failures rest) (hbeside : Beside r f f') : Stopping r f₀ f' failures rest where
  down := hbeside.states ▸ h.down
  clean hnone := (h.clean hnone).beside hbeside

/-- Whatever a target answers, the rest is gone on with. -/
theorem stopEach_cons (failures : List (String × BackendError)) (id : String) (rest : List String) :
    ∃ next, stopEach failures (id :: rest) = .ask (.on id .stop) next ∧
      next (.answered (.ok ())) = stopEach failures rest ∧
        ∀ e, next (.answered (.error e)) = stopEach ((id, e) :: failures) rest := ⟨_, rfl, rfl, fun _ => rfl⟩

/-- One more target is shut down. -/
theorem Stopping.step {failures : List (String × BackendError)} {id : String} {rest : List String}
    (h : Stopping r f₀ f failures (id :: rest)) {p : RegistryWork (Except RegistryError Unit)}
    (hgoes : Goes (stopEach failures (id :: rest)) f p f') :
    ∃ failures', p = stopEach failures' rest ∧ Stopping r f₀ f' failures' rest := by
  obtain ⟨next, hask, hok, herror⟩ := stopEach_cons failures id rest
  rw [hask] at hgoes
  cases hgoes with
  | @on _ _ _ _ log o state hruns =>
    obtain ⟨rfl, x, rfl, hlog⟩ := Section.stop_cases hruns
    have hdown (k : String) (hk : k ∈ r.ids) (hrest : k ∉ rest) : (f.after id log .shutdown).states k = .shutdown := by
      by_cases he : k = id
      · exact if_pos he
      · simp only [Floor.after, if_neg he]
        exact h.down k hk (by simp [he, hrest])
    cases x with
    | ok _ => exact ⟨failures, hok, hdown, fun hnone => (h.clean hnone).after hlog⟩
    | error e => exact ⟨(id, e) :: failures, herror e, hdown, fun hnone => by cases hnone⟩

/-- All targets are shut down in the end, and if no failure is reported, there was none. -/
theorem Carried.stopped {p : RegistryWork (Except RegistryError Unit)} {x : Except RegistryError Unit}
    (h : Carried r p f x f') {failures : List (String × BackendError)} {rest : List String}
    (hp : p = stopEach failures rest) (hstop : Stopping r f₀ f failures rest) :
    (∀ id ∈ r.ids, f'.states id = .shutdown) ∧ (x = .ok () → Clean f₀ f') := by
  induction h generalizing failures rest with
  | done =>
    cases rest with
    | nil =>
      obtain rfl := Procedure.result.inj hp
      refine ⟨fun id hid => hstop.down id hid (by simp), fun hok => hstop.clean ?_⟩
      cases failures with
      | nil => rfl
      | cons _ _ => cases hok
    | cons _ _ => cases hp
  | go hgoes _ ih =>
    subst hp
    cases rest with
    | nil => cases hgoes
    | cons _ rest =>
      obtain ⟨failures', rfl, hstop'⟩ := hstop.step hgoes
      exact ih rfl hstop'
  | beside hbeside _ ih => exact ih hp (hstop.beside hbeside)

theorem Carried.shutdownAll {x : Except RegistryError Unit} (h : Carried r r.shutdownAll f x f') :
    (∀ id ∈ r.ids, f'.states id = .shutdown) ∧ (x = .ok () → Clean f f') :=
  h.stopped rfl ⟨fun _ hid hnot => absurd hid hnot, fun _ => .refl f⟩

end

end Courier.Registry

namespace Courier.Shutdown

open Procedure Registry

abbrev ShutdownLog : Type := Log ShutdownAsk.Answer

/-- A shutdown of the relay while a consumer runs, over the targets of a registry: if
the targets are stopped in time, what that comes to is what the registry answers. -/
structure Closes (r : Registry) (c : ShutdownConfig) (f f' : Floor) (e : ConsumerEnd) (l : ShutdownLog)
    (result : ShutdownResult) : Prop where
  runs : (execute c true).Runs l (some result)
  consumer : ⟨.awaitConsumer c.consumerLimit, some e⟩ ∈ l
  targets : ∀ limit x, ⟨.stopTargets limit, some (some x)⟩ ∈ l → Carried r r.shutdownAll f x f'

/-- What a report of success is to be taken for. -/
structure Truthful (r : Registry) (f f' : Floor) (e : ConsumerEnd) : Prop where
  /-- The consumer finished, and left no task unfinished. -/
  finished : ∃ report, e = .finished report ∧ report.aborted = 0
  down : ∀ id ∈ r.ids, f'.states id = .shutdown
  clean : Clean f f'

variable {r : Registry} {c : ShutdownConfig} {f f' : Floor} {e : ConsumerEnd} {l : ShutdownLog} {res : ShutdownResult}

/-- What was asked and answered, and what is reported of it. -/
theorem execute_runs (h : (execute c true).Runs l (some res)) : ∃ e t,
    l = [⟨.signal, some ()⟩, ⟨.awaitConsumer c.consumerLimit, some e⟩, ⟨.stopTargets c.targetsLimit, some t⟩,
      ⟨.closeStore, some ()⟩] ∧ res = result e.report? (stopped t) := by
  rcases runs_ask h with ⟨-, hr⟩ | ⟨_, l₁, rfl, h₁⟩
  · cases hr
  rcases runs_ask h₁ with ⟨-, hr⟩ | ⟨e, l₂, rfl, h₂⟩
  · cases hr
  rcases runs_ask h₂ with ⟨-, hr⟩ | ⟨t, l₃, rfl, h₃⟩
  · cases hr
  rcases runs_ask h₃ with ⟨-, hr⟩ | ⟨_, l₄, rfl, h₄⟩
  · cases hr
  obtain ⟨rfl, hr⟩ := runs_result h₄
  cases hr
  exact ⟨e, t, rfl, rfl⟩

theorem success_result {consumer : Option ConsumerReport} {targetsStopped : Bool} :
    (result consumer targetsStopped).success = true ↔
      targetsStopped = true ∧ ∀ report, consumer = some report → report.aborted = 0 := by
  cases consumer <;> simp [result]

theorem stopped_iff {t : Option (Except RegistryError Unit)} : stopped t = true ↔ t = some (.ok ()) := by
  unfold stopped
  split <;> simp_all

/-- **A report of success is truthful just when the consumer left a report.** The targets are
shut down in any case, and none of them failed at it. -/
theorem truthful_iff_reported (h : Closes r c f f' e l res) (hsuccess : res.success = true) :
    (Truthful r f f' e ↔ ∃ report, res.consumer = some report) ∧
      (∀ id ∈ r.ids, f'.states id = .shutdown) ∧ Clean f f' := by
  obtain ⟨e', t, rfl, rfl⟩ := execute_runs h.runs
  have he : e' = e := by
    have hmem := h.consumer
    simp only [List.mem_cons, List.not_mem_nil, or_false] at hmem
    rcases hmem with hmem | hmem | hmem | hmem <;> cases hmem
    rfl
  subst he
  obtain ⟨hstopped, hreport⟩ := success_result.1 hsuccess
  obtain rfl := stopped_iff.1 hstopped
  obtain ⟨hdown, hclean⟩ := (h.targets c.targetsLimit (.ok ()) (by simp)).shutdownAll
  refine ⟨?_, hdown, hclean rfl⟩
  constructor
  · rintro ⟨⟨report, rfl, -⟩, -, -⟩
    exact ⟨report, rfl⟩
  · rintro ⟨report, hconsumer⟩
    cases e' with
    | finished report' => exact ⟨⟨report', rfl, hreport report' rfl⟩, hdown, hclean rfl⟩
    | broken | late => cases hconsumer

/-! ## Reports of one shutdown -/

/-- A target that runs. -/
def sample : Registry := ⟨[("a", .xmpp)]⟩

def sampleFloor : Floor := ⟨fun _ => .running, fun _ => [Invocation.started, Invocation.loaded]⟩

def sampleAnswer (e : ConsumerEnd) : (q : ShutdownAsk) → q.Answer
  | .signal | .closeStore => ()
  | .awaitConsumer _ => e
  | .stopTargets _ => some (.ok ())

/-- The target is shut down in time, however the consumer ends. -/
theorem sample_closes (e : ConsumerEnd) : ∃ f' l, Closes sample {} sampleFloor f' e l (result e.report? true) := by
  have hruns : (execute {} true).Runs
      [⟨.signal, some ()⟩, ⟨.awaitConsumer 20000, some e⟩, ⟨.stopTargets 10000, some (some (.ok ()))⟩, ⟨.closeStore, some ()⟩]
      (some (result e.report? true)) := runs_logWith (sampleAnswer e) _
  have hstop : (Section.stop.run .running).Runs [⟨.shutdown, some (.ok ())⟩] (some (.answered (.ok ()), .shutdown)) :=
    Runs.answered (A := BackendAnswer) (.ok ()) (.result _)
  have hcarried : Carried sample sample.shutdownAll sampleFloor (.ok ())
      (sampleFloor.after "a" [⟨.shutdown, some (.ok ())⟩] .shutdown) := .go (.on hstop) .done
  refine ⟨sampleFloor.after "a" [⟨.shutdown, some (.ok ())⟩] .shutdown, _, hruns,
    List.mem_cons_of_mem _ List.mem_cons_self, fun limit x hx => ?_⟩
  simp only [List.mem_cons, List.not_mem_nil, or_false] at hx
  rcases hx with hx | hx | hx | hx
  · cases hx
  · cases hx
  · cases hx
    exact hcarried
  · cases hx

theorem sample_truthful : ∃ f' l res, Closes sample {} sampleFloor f' (.finished { started := 3 }) l res ∧
    res.success = true ∧ Truthful sample sampleFloor f' (.finished { started := 3 }) := by
  obtain ⟨f', l, h⟩ := sample_closes (.finished { started := 3 })
  exact ⟨f', l, _, h, rfl, (truthful_iff_reported h rfl).1.2 ⟨_, rfl⟩⟩

/-- A consumer that is given up after its time counts as if it had finished. -/
theorem not_every_success_truthful : ¬ ∀ r c f f' e l res, Closes r c f f' e l res → res.success = true →
    Truthful r f f' e := by
  intro hall
  obtain ⟨f', l, h⟩ := sample_closes .late
  obtain ⟨report, hreport, -⟩ := (hall _ _ _ _ _ _ _ h rfl).finished
  cases hreport

end Courier.Shutdown
