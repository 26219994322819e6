import Mathlib.Data.List.Nodup
import Mathlib.Logic.Relation
import Courier.Proofs.Shutdown
/-
Which targets are asked to shut down before the store is closed. They are gone through
one after the other, and there is one limit for all of them: a target that fails keeps
no other from its turn, but one that does not answer keeps all that come after it. So a
target had its turn just when all before it are shut down.
-/

namespace Courier.Registry

open Procedure

variable {α : Type}

/-- How far a course came, with deliveries beside it. -/
inductive Reaches (r : Registry) : RegistryWork α → Floor → RegistryWork α → Floor → Prop
  | here {p : RegistryWork α} {f : Floor} : Reaches r p f p f
  | go {p p' p'' : RegistryWork α} {f f' f'' : Floor} (h : Goes p f p' f') (rest : Reaches r p' f' p'' f'') :
    Reaches r p f p'' f''
  | beside {p p'' : RegistryWork α} {f f' f'' : Floor} (h : Beside r f f') (rest : Reaches r p f' p'' f'') :
    Reaches r p f p'' f''

/-- Whether a target was asked to shut down between two moments. -/
def Attempted (f f' : Floor) (id : String) : Prop :=
  ∃ new x, f'.calls id = new ++ f.calls id ∧ ⟨.shutdown, x⟩ ∈ new

/-- Whether a target was left alone by everything but deliveries between two moments. -/
structure Spared (f f' : Floor) (id : String) : Prop where
  state : f'.states id = f.states id
  calls : ∃ new, f'.calls id = new ++ f.calls id ∧ ∀ x, (⟨.shutdown, x⟩ : Invocation) ∉ new

/-- How shutting all targets down ends: it answers, or is given up while a target is to
answer, or while it is waiting to have a target to itself. Deliveries may follow. -/
inductive Stops (r : Registry) (f : Floor) : Option (Except RegistryError Unit) → (waiting : Option String) → Floor → Prop
  | answered {x : Except RegistryError Unit} {f' f'' : Floor} (h : Reaches r r.shutdownAll f (.result x) f')
    (after : Relation.ReflTransGen (Beside r) f' f'') : Stops r f (some x) none f''
  | unanswered {p : RegistryWork (Except RegistryError Unit)} {f₁ f' f'' : Floor} (h : Reaches r r.shutdownAll f p f₁)
    (given : GivenUp p f₁ f') (after : Relation.ReflTransGen (Beside r) f' f'') : Stops r f none none f''
  | waiting {id : String} {next : SectionOutcome → RegistryWork (Except RegistryError Unit)} {f' f'' : Floor}
    (h : Reaches r r.shutdownAll f (.ask (.on id .stop) next) f')
    (after : Relation.ReflTransGen (Beside r) f' f'') : Stops r f none (some id) f''

section

variable {r : Registry} {f₀ f f' : Floor} {id : String}

theorem Spared.refl (f : Floor) (id : String) : Spared f f id := ⟨rfl, [], rfl, fun _ => List.not_mem_nil⟩

theorem Spared.not_attempted (h : Spared f f' id) : ¬ Attempted f f' id := by
  obtain ⟨new, hcalls, hnew⟩ := h.calls
  rintro ⟨new', x, hcalls', hx⟩
  obtain rfl := List.append_cancel_right (hcalls'.symm.trans hcalls)
  exact hnew x hx

/-- What is asked of another target changes nothing. -/
theorem Spared.after {k : String} {log : Log BackendAnswer} {state : Lifecycle} (h : Spared f₀ f id) (hne : id ≠ k) :
    Spared f₀ (f.after k log state) id := by
  refine ⟨?_, ?_⟩
  · simp only [Floor.after, if_neg hne]
    exact h.state
  · simp only [Floor.after, if_neg hne]
    exact h.calls

theorem Attempted.after {k : String} {log : Log BackendAnswer} {state : Lifecycle} (h : Attempted f₀ f id) :
    Attempted f₀ (f.after k log state) id := by
  obtain ⟨new, x, hcalls, hx⟩ := h
  by_cases hk : id = k
  · refine ⟨log.reverse ++ new, x, ?_, List.mem_append_right _ hx⟩
    simp only [Floor.after, if_pos hk, hcalls, List.append_assoc]
  · refine ⟨new, x, ?_, hx⟩
    simp only [Floor.after, if_neg hk, hcalls]

/-- A target that was left alone and is asked now was asked. -/
theorem Spared.attempted {log : Log BackendAnswer} {state : Lifecycle} {x : Option (Except BackendError Unit)}
    (h : Spared f₀ f id) (hx : ⟨.shutdown, x⟩ ∈ log) : Attempted f₀ (f.after id log state) id := by
  obtain ⟨new, hcalls, -⟩ := h.calls
  refine ⟨log.reverse ++ new, x, ?_, List.mem_append_left _ (List.mem_reverse.2 hx)⟩
  simp only [Floor.after, if_pos, hcalls, List.append_assoc]

theorem Attempted.beside (h : Attempted f₀ f id) (hbeside : Beside r f f') : Attempted f₀ f' id := by
  obtain ⟨k, log, rfl, -⟩ := hbeside.after
  exact h.after

theorem Spared.beside (h : Spared f₀ f id) (hbeside : Beside r f f') : Spared f₀ f' id := by
  obtain ⟨new, hcalls, hnew⟩ := h.calls
  refine ⟨by rw [hbeside.states, h.state], ?_⟩
  obtain ⟨k, log, rfl, hlog⟩ := hbeside.after
  by_cases hk : id = k
  · refine ⟨log.reverse ++ new, ?_, fun x hx => ?_⟩
    · simp only [Floor.after, if_pos hk, hcalls, List.append_assoc]
    · rcases List.mem_append.1 hx with hx | hx
      · exact hlog _ x (List.mem_reverse.1 hx) rfl
      · exact hnew x hx
  · refine ⟨new, ?_, hnew⟩
    simp only [Floor.after, if_neg hk, hcalls]

/-- How far the targets are gone through: some had their turn, and the rest is to come. -/
structure Passing (f₀ f : Floor) (past rest : List String) : Prop where
  down : ∀ k ∈ past, f.states k = .shutdown
  attempted : ∀ k ∈ past, f₀.states k ≠ .shutdown → Attempted f₀ f k
  spared : ∀ k ∈ rest, Spared f₀ f k

variable {past rest : List String}

theorem Passing.beside (h : Passing f₀ f past rest) (hbeside : Beside r f f') : Passing f₀ f' past rest where
  down := hbeside.states ▸ h.down
  attempted k hk hlive := (h.attempted k hk hlive).beside hbeside
  spared k hk := (h.spared k hk).beside hbeside

/-- The next target has its turn, and whatever it answers, the one after it has the next. -/
theorem Passing.step {failures : List (String × BackendError)} {p : RegistryWork (Except RegistryError Unit)}
    (h : Passing f₀ f past (id :: rest)) (hnotMem : id ∉ rest) (hgoes : Goes (stopEach failures (id :: rest)) f p f') :
    ∃ failures', p = stopEach failures' rest ∧ Passing f₀ f' (past ++ [id]) rest := by
  obtain ⟨next, hask, hok, herror⟩ := stopEach_cons failures id rest
  rw [hask] at hgoes
  cases hgoes with
  | @on _ _ _ _ log o state hruns =>
    obtain ⟨rfl, x, rfl, -⟩ := Section.stop_cases hruns
    have hpassing : Passing f₀ (f.after id log .shutdown) (past ++ [id]) rest := by
      refine ⟨fun k hk => ?_, fun k hk hlive => ?_, fun k hk => ?_⟩
      · by_cases he : k = id
        · exact if_pos he
        · simp only [Floor.after, if_neg he]
          exact h.down k (by simpa [he] using hk)
      · by_cases he : k = id
        · subst he
          have hspared := h.spared k List.mem_cons_self
          obtain ⟨y, hy⟩ := Section.stop_asks hruns (hspared.state ▸ hlive)
          exact hspared.attempted hy
        · exact (h.attempted k (by simpa [he] using hk) hlive).after
      · exact (h.spared k (List.mem_cons_of_mem _ hk)).after fun he => hnotMem (he ▸ hk)
    cases x with
    | ok _ => exact ⟨failures, hok, hpassing⟩
    | error e => exact ⟨(id, e) :: failures, herror e, hpassing⟩

/-- Wherever shutting down came to, it goes through the targets in their order. -/
theorem Reaches.passing {p p' : RegistryWork (Except RegistryError Unit)} (h : Reaches r p f p' f')
    {failures : List (String × BackendError)} (hp : p = stopEach failures rest) (hnodup : rest.Nodup)
    (hpassing : Passing f₀ f past rest) :
    ∃ past' failures' rest', past ++ rest = past' ++ rest' ∧ p' = stopEach failures' rest' ∧ Passing f₀ f' past' rest' := by
  induction h generalizing failures past rest with
  | here => exact ⟨past, failures, rest, rfl, hp, hpassing⟩
  | go hgoes _ ih =>
    subst hp
    cases rest with
    | nil => cases hgoes
    | cons id rest =>
      obtain ⟨hnotMem, hnodup⟩ := List.nodup_cons.1 hnodup
      obtain ⟨failures', rfl, hpassing'⟩ := hpassing.step hnotMem hgoes
      obtain ⟨past', failures'', rest', hlist, hp', hend⟩ := ih rfl hnodup hpassing'
      refine ⟨past', failures'', rest', ?_, hp', hend⟩
      rw [← hlist, List.append_assoc, List.singleton_append]
  | beside hbeside _ ih => exact ih hp hnodup (hpassing.beside hbeside)

/-- Where no step is left, no target is. -/
theorem stopEach_result {failures : List (String × BackendError)} {x : Except RegistryError Unit}
    (h : .result x = stopEach failures rest) : rest = [] := by
  cases rest with
  | nil => rfl
  | cons _ _ => cases h

/-- A step that is not done is the one on the next target. -/
theorem stopEach_ask {failures : List (String × BackendError)} {s : Section}
    {next : SectionOutcome → RegistryWork (Except RegistryError Unit)}
    (h : .ask (.on id s) next = stopEach failures rest) : ∃ rest', rest = id :: rest' ∧ s = .stop := by
  cases rest with
  | nil => cases h
  | cons k rest' =>
    obtain ⟨next', hask, -, -⟩ := stopEach_cons failures k rest'
    rw [hask] at h
    cases h
    exact ⟨rest', rfl, rfl⟩

/-- Which targets had no turn to its end: none, or one that was asked and did not answer
with those behind it, or one that was waited for with those behind it. -/
inductive Left (f₀ f : Floor) : (waiting : Option String) → List String → Prop
  | none : Left f₀ f .none []
  | unanswered {id : String} {rest : List String} (state : f.states id ≠ .shutdown) (attempted : Attempted f₀ f id)
    (spared : ∀ k ∈ rest, Spared f₀ f k) : Left f₀ f .none (id :: rest)
  | waiting {id : String} {rest : List String} (spared : ∀ k ∈ id :: rest, Spared f₀ f k) : Left f₀ f (some id) (id :: rest)

/-- However shutting down ends, a first part of the targets had its turn. -/
structure Ended (r : Registry) (f₀ f : Floor) (waiting : Option String) (past rest : List String) : Prop where
  ids : r.ids = past ++ rest
  down : ∀ k ∈ past, f.states k = .shutdown
  attempted : ∀ k ∈ past, f₀.states k ≠ .shutdown → Attempted f₀ f k
  left : Left f₀ f waiting rest

variable {x : Option (Except RegistryError Unit)} {waiting : Option String}

theorem Beside.ended (hbeside : Beside r f f') (h : Ended r f₀ f waiting past rest) : Ended r f₀ f' waiting past rest where
  ids := h.ids
  down := hbeside.states ▸ h.down
  attempted k hk hlive := (h.attempted k hk hlive).beside hbeside
  left := by
    cases h.left with
    | none => exact .none
    | unanswered hstate hattempted hspared =>
      exact .unanswered (hbeside.states ▸ hstate) (hattempted.beside hbeside) fun k hk => (hspared k hk).beside hbeside
    | waiting hspared => exact .waiting fun k hk => (hspared k hk).beside hbeside

theorem Ended.besides (hbesides : Relation.ReflTransGen (Beside r) f f') (h : Ended r f₀ f waiting past rest) :
    Ended r f₀ f' waiting past rest := by
  induction hbesides with
  | refl => exact h
  | tail _ hbeside ih => exact hbeside.ended ih

theorem Reaches.shutdownAll {p : RegistryWork (Except RegistryError Unit)} (h : Reaches r r.shutdownAll f p f')
    (hnodup : r.ids.Nodup) :
    ∃ past failures rest, r.ids = past ++ rest ∧ p = stopEach failures rest ∧ Passing f f' past rest := by
  have hstart : Passing f f [] r.ids :=
    ⟨fun _ hk => absurd hk List.not_mem_nil, fun _ hk => absurd hk List.not_mem_nil, fun k _ => .refl f k⟩
  exact h.passing rfl hnodup hstart

theorem Stops.ended (h : Stops r f x waiting f') (hnodup : r.ids.Nodup) :
    ∃ past rest, Ended r f f' waiting past rest ∧ (x.isSome → rest = []) := by
  cases h with
  | answered hreaches hafter =>
    obtain ⟨past, failures, rest, hids, hp, hpassing⟩ := hreaches.shutdownAll hnodup
    obtain rfl := stopEach_result hp
    exact ⟨past, [], .besides hafter ⟨hids, hpassing.down, hpassing.attempted, .none⟩, fun _ => rfl⟩
  | unanswered hreaches hgiven hafter =>
    obtain ⟨past, failures, rest, hids, hp, hpassing⟩ := hreaches.shutdownAll hnodup
    cases hgiven with
    | @on id s next _ log hruns =>
      obtain ⟨rest', rfl, rfl⟩ := stopEach_ask hp
      have hnotMem : id ∉ rest' := by
        rw [hids] at hnodup
        exact (List.nodup_cons.1 (List.nodup_append.1 hnodup).2.1).1
      have hspared := hpassing.spared id List.mem_cons_self
      have hlive := Section.stop_givenUp hruns
      obtain ⟨y, hy⟩ := Section.stop_asks hruns hlive
      refine ⟨past, id :: rest', .besides hafter ⟨hids, ?_, fun k hk hk' => (hpassing.attempted k hk hk').after, ?_⟩,
        fun hx => by cases hx⟩
      · rw [after_states]
        exact hpassing.down
      · refine .unanswered ?_ (hspared.attempted hy) fun k hk => ?_
        · rw [after_states]
          exact hlive
        · exact (hpassing.spared k (List.mem_cons_of_mem _ hk)).after fun he => hnotMem (he ▸ hk)
  | waiting hreaches hafter =>
    obtain ⟨past, failures, rest, hids, hp, hpassing⟩ := hreaches.shutdownAll hnodup
    obtain ⟨rest', rfl, -⟩ := stopEach_ask hp
    exact ⟨past, _, .besides hafter ⟨hids, hpassing.down, hpassing.attempted, .waiting hpassing.spared⟩, fun hx => by cases hx⟩

/-- Where a target stands that others come before. -/
theorem Ended.place (h : Ended r f₀ f waiting past rest) {earlier later : List String} (hids : r.ids = earlier ++ id :: later) :
    (id ∈ past ∧ ∀ k ∈ earlier, k ∈ past) ∨ (earlier = past ∧ rest = id :: later) ∨
      ∃ k rest', rest = k :: rest' ∧ k ∈ earlier ∧ id ∈ rest' := by
  rcases List.append_eq_append_iff.1 (h.ids.symm.trans hids) with ⟨between, rfl, hrest⟩ | ⟨between, rfl, hlater⟩
  · cases between with
    | nil => exact .inr (.inl ⟨List.append_nil past, hrest⟩)
    | cons k between =>
      refine .inr (.inr ⟨k, between ++ id :: later, hrest, ?_, ?_⟩)
      · exact List.mem_append_right _ List.mem_cons_self
      · exact List.mem_append_right _ List.mem_cons_self
  · cases between with
    | nil => exact .inr (.inl ⟨(List.append_nil earlier).symm, hlater.symm⟩)
    | cons k between =>
      obtain ⟨rfl, -⟩ := List.cons.inj hlater
      exact .inl ⟨List.mem_append_right _ List.mem_cons_self, fun j hj => List.mem_append_left _ hj⟩

theorem Ended.attempted_iff (h : Ended r f₀ f waiting past rest) (hnodup : r.ids.Nodup) {earlier later : List String}
    (hids : r.ids = earlier ++ id :: later) (hlive : f₀.states id ≠ .shutdown) :
    Attempted f₀ f id ↔ waiting ≠ some id ∧ ∀ k ∈ earlier, f.states k = .shutdown ∧ waiting ≠ some k := by
  rcases h.place hids with ⟨hpast, hearlier⟩ | ⟨rfl, rfl⟩ | ⟨k, rest', rfl, hk, hid⟩
  · -- what is waited for is among the rest
    have hwaiting : ∀ k ∈ past, waiting ≠ some k := by
      rintro k hk rfl
      rw [h.ids] at hnodup
      cases h.left with
      | waiting => exact (List.nodup_append.1 hnodup).2.2 k hk k List.mem_cons_self rfl
    exact ⟨fun _ => ⟨hwaiting id hpast, fun k hk => ⟨h.down k (hearlier k hk), hwaiting k (hearlier k hk)⟩⟩,
      fun _ => h.attempted id hpast hlive⟩
  · cases h.left with
    | unanswered _ hattempted _ => exact ⟨fun _ => ⟨nofun, fun k hk => ⟨h.down k hk, nofun⟩⟩, fun _ => hattempted⟩
    | waiting hspared =>
      exact ⟨fun hattempted => absurd hattempted (hspared id List.mem_cons_self).not_attempted, fun hno => absurd rfl hno.1⟩
  · cases h.left with
    | unanswered hstate _ hspared =>
      exact ⟨fun hattempted => absurd hattempted (hspared id hid).not_attempted, fun hno => absurd (hno.2 k hk).1 hstate⟩
    | waiting hspared =>
      refine ⟨fun hattempted => ?_, fun hno => absurd rfl (hno.2 k hk).2⟩
      exact absurd hattempted (hspared id (List.mem_cons_of_mem _ hid)).not_attempted

end

end Courier.Registry

namespace Courier.Shutdown

open Procedure Registry

/-- A shutdown of the relay that has come to closing the store, over the targets of a
registry; if shutting them down was given up then, it may have been waiting for a target. -/
structure Closing (r : Registry) (c : ShutdownConfig) (hasConsumer : Bool) (f f' : Floor) (l : ShutdownLog)
    (waiting : Option String) : Prop where
  runs : ∃ res, (execute c hasConsumer).Runs l res
  closing : ∃ y, ⟨.closeStore, y⟩ ∈ l
  targets : ∀ x, ⟨.stopTargets c.targetsLimit, some x⟩ ∈ l → Stops r f x waiting f'

variable {r : Registry} {c : ShutdownConfig} {hasConsumer : Bool} {f f' : Floor} {l : ShutdownLog} {waiting : Option String}

/-- The store is closed only after the targets were shut down, or that was given up. -/
theorem finish_closes {consumer : Option ConsumerReport} {res : Option ShutdownResult} (h : (finish c consumer).Runs l res)
    {y : Option Unit} (hclose : ⟨.closeStore, y⟩ ∈ l) : ∃ x, ⟨.stopTargets c.targetsLimit, some x⟩ ∈ l := by
  rcases runs_ask h with ⟨rfl, -⟩ | ⟨x, l', rfl, -⟩
  · cases List.mem_singleton.1 hclose
  · exact ⟨x, List.mem_cons_self⟩

theorem execute_closes {res : Option ShutdownResult} (h : (execute c hasConsumer).Runs l res) {y : Option Unit}
    (hclose : ⟨.closeStore, y⟩ ∈ l) : ∃ x, ⟨.stopTargets c.targetsLimit, some x⟩ ∈ l := by
  rcases runs_ask h with ⟨rfl, -⟩ | ⟨_, l₁, rfl, h₁⟩
  · cases List.mem_singleton.1 hclose
  have hclose₁ : ⟨.closeStore, y⟩ ∈ l₁ := (List.mem_cons.1 hclose).resolve_left nofun
  cases hasConsumer with
  | false =>
    obtain ⟨x, hx⟩ := finish_closes h₁ hclose₁
    exact ⟨x, List.mem_cons_of_mem _ hx⟩
  | true =>
    rcases runs_ask h₁ with ⟨rfl, -⟩ | ⟨e, l₂, rfl, h₂⟩
    · cases List.mem_singleton.1 hclose₁
    have hclose₂ : ⟨.closeStore, y⟩ ∈ l₂ := (List.mem_cons.1 hclose₁).resolve_left nofun
    obtain ⟨x, hx⟩ := finish_closes h₂ hclose₂
    exact ⟨x, List.mem_cons_of_mem _ (List.mem_cons_of_mem _ hx)⟩

/-- **When the store is closed, a target was asked to shut down just when none before it
kept it from its turn.** Such a one was asked and did not answer, or it, or the target itself,
was still waited for. If shutting down was not given up, all targets were asked. -/
theorem attempted_iff_all_before_down (h : Closing r c hasConsumer f f' l waiting) (hnodup : r.ids.Nodup) :
    ∃ x, ⟨.stopTargets c.targetsLimit, some x⟩ ∈ l ∧
      (∀ earlier id later, r.ids = earlier ++ id :: later → f.states id ≠ .shutdown →
        (Attempted f f' id ↔ waiting ≠ some id ∧ ∀ k ∈ earlier, f'.states k = .shutdown ∧ waiting ≠ some k)) ∧
      (x.isSome → ∀ id ∈ r.ids, f.states id ≠ .shutdown → Attempted f f' id) := by
  obtain ⟨res, hruns⟩ := h.runs
  obtain ⟨y, hclose⟩ := h.closing
  obtain ⟨x, hx⟩ := execute_closes hruns hclose
  obtain ⟨past, rest, hended, hall⟩ := (h.targets x hx).ended hnodup
  refine ⟨x, hx, fun earlier id later hids hlive => hended.attempted_iff hnodup hids hlive, fun hsome id hid hlive => ?_⟩
  refine hended.attempted id ?_ hlive
  rw [hended.ids, hall hsome, List.append_nil] at hid
  exact hid

/-! ## A target that does not answer -/

def samplePair : Registry := ⟨[("a", .xmpp), ("b", .xmpp)]⟩

/-- The floor after the first target was asked to shut down, without an answer. -/
def sampleStalled : Floor := sampleFloor.after "a" [⟨.shutdown, none⟩] .running

/-- The first target is asked, and nothing comes of it within the limit. -/
theorem sample_closing : ∃ l, Closing samplePair {} false sampleFloor sampleStalled l none := by
  have hruns : (execute {} false).Runs [⟨.signal, some ()⟩, ⟨.stopTargets 10000, some none⟩, ⟨.closeStore, none⟩] none := by
    have hclose : (finish {} none).Runs [⟨.stopTargets 10000, some none⟩, ⟨.closeStore, none⟩] none :=
      .answered (A := ShutdownAsk.Answer) (q := .stopTargets 10000) none (.waits _ _)
    exact .answered (A := ShutdownAsk.Answer) (q := .signal) () hclose
  have hasked : (Section.stop.run .running).Runs [⟨.shutdown, none⟩] none := .waits _ _
  have hstops : Stops samplePair sampleFloor none none sampleStalled := .unanswered .here (.on hasked) .refl
  refine ⟨_, ⟨none, hruns⟩, ⟨none, by simp⟩, fun x hx => ?_⟩
  simp only [List.mem_cons, List.not_mem_nil, or_false] at hx
  rcases hx with hx | hx | hx
  · cases hx
  · cases hx
    exact hstops
  · cases hx

/-- The first target was asked; the second one was not. -/
theorem sample_attempted : ∃ l, Closing samplePair {} false sampleFloor sampleStalled l none ∧ samplePair.ids.Nodup ∧
    Attempted sampleFloor sampleStalled "a" ∧ ¬ Attempted sampleFloor sampleStalled "b" := by
  obtain ⟨l, h⟩ := sample_closing
  have hnodup : samplePair.ids.Nodup := by decide
  obtain ⟨x, -, hiff, -⟩ := attempted_iff_all_before_down h hnodup
  refine ⟨l, h, hnodup, (hiff [] "a" ["b"] rfl (by decide)).2 ⟨by decide, by simp⟩, fun hb => ?_⟩
  have hdown := ((hiff ["a"] "b" [] rfl (by decide)).1 hb).2 "a" (by simp)
  cases hdown.1

/-- A target that does not answer keeps those that come after it from being asked. -/
theorem not_every_target_attempted : ¬ ∀ r c hasConsumer f f' l waiting, Closing r c hasConsumer f f' l waiting → r.ids.Nodup →
    ∀ id ∈ r.ids, f.states id ≠ .shutdown → Attempted f f' id := by
  intro hall
  obtain ⟨l, h⟩ := sample_closing
  obtain ⟨new, x, hcalls, hx⟩ := hall _ _ _ _ _ _ _ h (by decide) "b" (by decide) (by decide)
  obtain rfl : new = [] := List.append_cancel_right (hcalls.symm.trans rfl)
  cases hx

end Courier.Shutdown
