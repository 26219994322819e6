import Courier.Proofs.Target.Lifecycle
/-
A registry at work. One of its calls that bring targets up and down is under way at
a time, and deliveries go on beside it; each step has one target to itself. Whatever
the targets answer, none is asked what its life so far does not allow.

Deliveries change no state. So what a call has seen of a target stays true until the
call itself comes back to it, and a call can be followed alone: it is `Careful` if
all its steps fit the states it meets.
-/

namespace Courier.Registry

open Procedure Invocation

/-- The targets of a registry: their states, and what each of them was asked so far. -/
structure Floor where
  states : String → Lifecycle := fun _ => .uninitialized
  calls : String → List Invocation := fun _ => []

/-- The targets after a step on one of them. -/
def Floor.after (f : Floor) (id : String) (log : Log BackendAnswer) (state : Lifecycle) : Floor where
  states k := if k = id then state else f.states k
  calls k := if k = id then log.reverse ++ f.calls k else f.calls k

section

variable {α : Type}

/-- One step of a course, done to its end. -/
inductive Goes : RegistryWork α → Floor → RegistryWork α → Floor → Prop
  | on {id : String} {s : Section} {next : SectionOutcome → RegistryWork α} {f : Floor} {log : Log BackendAnswer}
    {o : SectionOutcome} {state : Lifecycle} (h : (s.run (f.states id)).Runs log (some (o, state))) :
    Goes (.ask (.on id s) next) f (next o) (f.after id log state)
  | count {c : Count} {next : Unit → RegistryWork α} {f : Floor} : Goes (.ask (.count c) next) f (next ()) f

/-- A step of a course that is given up in the middle. -/
inductive GivenUp : RegistryWork α → Floor → Floor → Prop
  | on {id : String} {s : Section} {next : SectionOutcome → RegistryWork α} {f : Floor} {log : Log BackendAnswer}
    (h : (s.run (f.states id)).Runs log none) :
    GivenUp (.ask (.on id s) next) f (f.after id log (f.states id))

end

/-- What a delivery does to the targets. -/
inductive Beside (r : Registry) (f : Floor) : Floor → Prop
  | done {id : String} {m : Message} {args : TargetArgs} {p : RegistryWork (Except RegistryError Unit)} {f' : Floor}
    (h : Goes (r.execute id m args) f p f') : Beside r f f'
  | givenUp {id : String} {m : Message} {args : TargetArgs} {f' : Floor} (h : GivenUp (r.execute id m args) f f') :
    Beside r f f'

/-! ## Deliveries -/

section

variable {r : Registry} {id : String} {m : Message} {args : TargetArgs} {f f' : Floor}

theorem execute_unknown (h : id ∉ r.ids) : r.execute id m args = .result (.error (.unknownTarget id)) := by
  have hnone : (r.targets.find? fun t => t.1 == id) = none := by
    rw [List.find?_eq_none]
    intro t ht he
    have hid : t.1 = id := by simpa using he
    exact h (List.mem_map.2 ⟨t, ht, hid⟩)
  simp only [execute, hnone]
  rfl

/-- A delivery to a known target begins with a step on that target, and is refused if that is. -/
theorem execute_known (m : Message) (args : TargetArgs) (h : id ∈ r.ids) :
    ∃ next, r.execute id m args = .ask (.on id (.execute m args)) next ∧
      ∀ state, next (.refused state) = .result (.error (.notRunning id state)) := by
  obtain ⟨t, ht, rfl⟩ := List.mem_map.1 h
  cases hfind : r.targets.find? fun u => u.1 == t.1 with
  | none =>
    have hne := List.find?_eq_none.1 hfind t ht
    simp at hne
  | some u =>
    simp only [execute, hfind]
    exact ⟨_, rfl, fun _ => rfl⟩

theorem execute_goes {p : RegistryWork (Except RegistryError Unit)} (h : Goes (r.execute id m args) f p f') :
    ∃ log o state, ((Section.execute m args).run (f.states id)).Runs log (some (o, state)) ∧ f' = f.after id log state := by
  by_cases hid : id ∈ r.ids
  · obtain ⟨next, hexecute, -⟩ := execute_known m args hid
    rw [hexecute] at h
    cases h with
    | on hruns => exact ⟨_, _, _, hruns, rfl⟩
  · rw [execute_unknown hid] at h
    cases h

theorem execute_givenUp (h : GivenUp (r.execute id m args) f f') :
    ∃ log, ((Section.execute m args).run (f.states id)).Runs log none ∧ f' = f.after id log (f.states id) := by
  by_cases hid : id ∈ r.ids
  · obtain ⟨next, hexecute, -⟩ := execute_known m args hid
    rw [hexecute] at h
    cases h with
    | on hruns => exact ⟨_, hruns, rfl⟩
  · rw [execute_unknown hid] at h
    cases h

theorem after_same {k : String} : (f.after k [] (f.states k)) = f := by
  have hstates : (fun j => if j = k then f.states k else f.states j) = f.states := by
    funext j
    split
    · next h => rw [h]
    · rfl
  have hcalls : (fun j => if j = k then ([] : Log BackendAnswer).reverse ++ f.calls j else f.calls j) = f.calls := by
    funext j
    simp
  simp only [Floor.after, hstates, hcalls]

/-- A target that does not run is asked nothing by a delivery, and the delivery fails. -/
theorem execute_refused (hid : id ∈ r.ids) (hstate : f.states id ≠ .running)
    {p : RegistryWork (Except RegistryError Unit)} :
    Goes (r.execute id m args) f p f' ↔ p = .result (.error (.notRunning id (f.states id))) ∧ f' = f := by
  obtain ⟨next, hexecute, hrefused⟩ := execute_known m args hid
  have hrun : (Section.execute m args).run (f.states id) = .result (.refused (f.states id), f.states id) := if_pos hstate
  rw [hexecute]
  constructor
  · intro h
    cases h with
    | on hruns =>
      rw [hrun] at hruns
      obtain ⟨rfl, hr⟩ := runs_result hruns
      cases hr
      exact ⟨hrefused _, after_same⟩
  · rintro ⟨rfl, rfl⟩
    have hgoes : Goes (.ask (.on id (.execute m args)) next) f' _ _ := .on (hrun ▸ Runs.result _)
    rwa [hrefused, after_same] at hgoes

end

/-! ## Calls -/

/-- Whether all steps of a course fit the states that it meets, with nothing but deliveries beside it. -/
def Careful {α : Type} : RegistryWork α → (String → Lifecycle) → Prop
  | .result _, _ => True
  | .ask (.on id s) next, states =>
    s.Fits (states id) ∧ ∀ log o state, (s.run (states id)).Runs log (some (o, state)) →
      Careful (next o) fun k => if k = id then state else states k
  | .ask (.count _) next, states => Careful (next ()) states

theorem careful_loadEach (ids : List String) (states : String → Lifecycle) : Careful (loadEach ids) states := by
  induction ids generalizing states with
  | nil => trivial
  | cons id ids ih =>
    refine ⟨trivial, fun log o state _ => ?_⟩
    cases o with
    | refused s => exact ih _
    | answered x =>
      cases x with
      | ok _ => exact ih _
      | error e => trivial

theorem careful_stopEach (failures : List (String × BackendError)) (ids : List String) (states : String → Lifecycle) :
    Careful (stopEach failures ids) states := by
  induction ids generalizing failures states with
  | nil => trivial
  | cons id ids ih =>
    refine ⟨trivial, fun log o state _ => ?_⟩
    cases o with
    | refused s => exact ih _ _
    | answered x =>
      cases x with
      | ok _ => exact ih _ _
      | error e => exact ih _ _

/-- Starts are taken back from targets that run, each once. -/
theorem careful_rollBack {started : List String} {states : String → Lifecycle} (hnodup : started.Nodup)
    (hrunning : ∀ id ∈ started, states id = .running) (e : RegistryError) :
    Careful ((rollBack started).bind fun _ => .result (Except.error e : Except RegistryError Unit)) states := by
  induction started generalizing states with
  | nil => trivial
  | cons id started ih =>
    obtain ⟨hid, hnodup⟩ := List.nodup_cons.1 hnodup
    refine ⟨hrunning id List.mem_cons_self, fun log o state _ => ih hnodup fun k hk => ?_⟩
    have hne : k ≠ id := fun he => hid (he ▸ hk)
    rw [if_neg hne]
    exact hrunning k (List.mem_cons_of_mem id hk)

/-- The targets that were started so far run, and so none of them is started again. -/
theorem careful_startEach {started ids : List String} {states : String → Lifecycle} (hnodup : started.Nodup)
    (hrunning : ∀ id ∈ started, states id = .running) : Careful (startEach started ids) states := by
  induction ids generalizing started states with
  | nil => trivial
  | cons id ids ih =>
    refine ⟨trivial, fun log o state h => ?_⟩
    have kept (hloaded : states id = .loaded) (k : String) (hk : k ∈ started) :
        (if k = id then state else states k) = .running := by
      have hne : k ≠ id := by
        rintro rfl
        rw [hrunning k hk] at hloaded
        cases hloaded
      rw [if_neg hne]
      exact hrunning k hk
    rcases Section.start_runs h with ⟨-, -, rfl, rfl⟩ | ⟨hloaded, ⟨-, rfl, rfl⟩ | ⟨e, z, -, rfl, rfl⟩⟩
    · refine careful_rollBack hnodup (fun k hk => ?_) _
      split
      · next he => exact he ▸ hrunning k hk
      · exact hrunning k hk
    · refine ih (List.nodup_cons.2 ⟨fun hid => ?_, hnodup⟩) fun k hk => ?_
      · rw [hrunning id hid] at hloaded
        cases hloaded
      · rcases List.mem_cons.1 hk with rfl | hk
        · exact if_pos rfl
        · exact kept hloaded k hk
    · exact careful_rollBack hnodup (kept hloaded) _

/-- A call that brings all targets up or down. -/
def Call (r : Registry) (p : RegistryWork (Except RegistryError Unit)) : Prop :=
  p = r.loadAll ∨ p = r.runAll ∨ p = r.shutdownAll

theorem Call.careful {r : Registry} {p : RegistryWork (Except RegistryError Unit)} (h : Call r p)
    (states : String → Lifecycle) : Careful p states := by
  rcases h with rfl | rfl | rfl
  · exact careful_loadEach _ _
  · exact careful_startEach List.nodup_nil (by simp)
  · exact careful_stopEach _ _ _

/-! ## What each target was asked -/

/-- Whether all targets were asked only what they might be, and their states tell so. -/
def Kept (f : Floor) : Prop := ∀ id, Disciplined (f.calls id) ∧ Tells (f.calls id) (f.states id)

section

variable {r : Registry} {f f' : Floor}

theorem kept_new : Kept {} := fun _ => ⟨trivial, rfl⟩

theorem Kept.after (h : Kept f) {id : String} {log : Log BackendAnswer} {state : Lifecycle}
    (hid : Disciplined (log.reverse ++ f.calls id) ∧ Tells (log.reverse ++ f.calls id) state) :
    Kept (f.after id log state) := by
  intro k
  by_cases hk : k = id
  · subst hk
    simp only [Floor.after, if_true]
    exact hid
  · simp only [Floor.after, if_neg hk]
    exact h k

theorem Kept.step (h : Kept f) {id : String} {s : Section} {log : Log BackendAnswer} {o : SectionOutcome}
    {state : Lifecycle} (hfits : s.Fits (f.states id)) (hruns : (s.run (f.states id)).Runs log (some (o, state))) :
    Kept (f.after id log state) :=
  h.after (Section.run_tells (h id).1 (h id).2 hfits hruns)

theorem after_states {id : String} {log : Log BackendAnswer} : (f.after id log (f.states id)).states = f.states := by
  funext k
  simp only [Floor.after]
  split
  · next hk => rw [hk]
  · rfl

/-- A delivery asks one target for nothing but the delivery, and leaves its state. -/
theorem Beside.after (h : Beside r f f') : ∃ k log, f' = f.after k log (f.states k) ∧
    ∀ c x, (⟨c, x⟩ : Invocation) ∈ log → c ≠ .shutdown := by
  cases h with
  | @done k m args _ _ hgoes =>
    obtain ⟨log, o, state, hruns, rfl⟩ := execute_goes hgoes
    obtain rfl := Section.execute_state hruns
    refine ⟨k, log, rfl, fun c x hx he => ?_⟩
    rw [Section.execute_asks hruns hx] at he
    cases he
  | @givenUp k m args _ hgiven =>
    obtain ⟨log, hruns, rfl⟩ := execute_givenUp hgiven
    refine ⟨k, log, rfl, fun c x hx he => ?_⟩
    rw [Section.execute_asks hruns hx] at he
    cases he

theorem Beside.states (h : Beside r f f') : f'.states = f.states := by
  obtain ⟨k, log, rfl, -⟩ := h.after
  exact after_states

theorem Kept.beside (h : Kept f) (hbeside : Beside r f f') : Kept f' := by
  cases hbeside with
  | @done id m args p f' hgoes =>
    obtain ⟨log, o, state, hruns, rfl⟩ := execute_goes hgoes
    have hfits : (Section.execute m args).Fits (f.states id) := trivial
    exact h.step hfits hruns
  | @givenUp id m args f' hgiven =>
    obtain ⟨log, hruns, rfl⟩ := execute_givenUp hgiven
    exact h.after (Section.execute_givenUp (h id).1 (h id).2 hruns)

/-- A careful course stays careful, and asks no target what it may not. -/
theorem Careful.goes {α : Type} {p p' : RegistryWork α} (hcareful : Careful p f.states) (h : Kept f)
    (hgoes : Goes p f p' f') : Careful p' f'.states ∧ Kept f' := by
  cases hgoes with
  | on hruns => exact ⟨hcareful.2 _ _ _ hruns, h.step hcareful.1 hruns⟩
  | count => exact ⟨hcareful, h⟩

end

/-! ## The registry at work -/

/-- The targets, and the call that is under way. -/
structure Site where
  floor : Floor := {}
  work : Option (RegistryWork (Except RegistryError Unit)) := none

namespace Site

inductive Step (r : Registry) (w : Site) : Site → Prop
  | call {p : RegistryWork (Except RegistryError Unit)} (idle : w.work = none) (hp : Call r p) :
    Step r w { w with work := some p }
  | go {p p' : RegistryWork (Except RegistryError Unit)} {f : Floor} (busy : w.work = some p)
    (h : Goes p w.floor p' f) : Step r w { floor := f, work := some p' }
  | finish {x : Except RegistryError Unit} (done : w.work = some (.result x)) : Step r w { w with work := none }
  | beside {f : Floor} (h : Beside r w.floor f) : Step r w { w with floor := f }

/-- The states that are reached from a registry whose targets were just made. -/
inductive Reachable (r : Registry) : Site → Prop
  | start : Reachable r {}
  | step {w w' : Site} (h : Reachable r w) (hstep : Step r w w') : Reachable r w'

structure Invariant (w : Site) : Prop where
  kept : Kept w.floor
  careful : ∀ p, w.work = some p → Careful p w.floor.states

variable {r : Registry} {w w' : Site}

theorem Invariant.step (h : Invariant w) (hstep : Step r w w') : Invariant w' := by
  cases hstep with
  | call idle hp =>
    refine ⟨h.kept, fun p hwork => ?_⟩
    cases hwork
    exact hp.careful _
  | go busy hgoes =>
    obtain ⟨hcareful, hkept⟩ := (h.careful _ busy).goes h.kept hgoes
    refine ⟨hkept, fun p hwork => ?_⟩
    cases hwork
    exact hcareful
  | finish done => exact ⟨h.kept, fun p hwork => by cases hwork⟩
  | beside hbeside =>
    refine ⟨h.kept.beside hbeside, fun p hwork => ?_⟩
    rw [hbeside.states]
    exact h.careful p hwork

theorem Reachable.invariant (h : Reachable r w) : Invariant w := by
  induction h with
  | start => exact ⟨kept_new, fun p hwork => by cases hwork⟩
  | step _ hstep ih => exact ih.step hstep

/-- **No target is asked what its life does not allow**: it is started only when the last
event was that it was loaded, it delivers only when the last event was that it was started,
and it is shut down once for each time it is loaded. The state tells the last event, and a
delivery to a target that is not there or does not run fails without a word to any target. -/
theorem lives_kept (h : Reachable r w) :
    (∀ id, Disciplined (w.floor.calls id) ∧ Tells (w.floor.calls id) (w.floor.states id)) ∧
      ∀ id m args, (id ∉ r.ids → r.execute id m args = .result (.error (.unknownTarget id))) ∧
        (id ∈ r.ids → w.floor.states id ≠ .running → ∀ p f, Goes (r.execute id m args) w.floor p f ↔
          p = .result (.error (.notRunning id (w.floor.states id))) ∧ f = w.floor) :=
  ⟨h.invariant.kept, fun _ _ _ => ⟨execute_unknown, fun hid hstate _ _ => execute_refused hid hstate⟩⟩

/-- Two targets, of which the second one will not start. -/
def sample : Registry := ⟨[("a", .xmpp), ("b", .apprise)]⟩

theorem sample_lives_kept : ∃ w, Reachable sample w ∧
    w.floor.calls "a" = [⟨.shutdown, some (.ok ())⟩, started, loaded] ∧
    w.floor.calls "b" = [⟨.shutdown, some (.error (.io "gone"))⟩, ⟨.run, some (.error (.connection "refused"))⟩, loaded] ∧
    (∀ id, Disciplined (w.floor.calls id)) ∧
    ∀ p f, Goes (sample.execute "a" {} []) w.floor p f ↔
      p = .result (.error (.notRunning "a" .shutdown)) ∧ f = w.floor := by
  have loads (state : Lifecycle) : (Section.load.run state).Runs [loaded] (some (.answered (.ok ()), .loaded)) :=
    Runs.answered (A := BackendAnswer) (.ok ()) (.result _)
  have starts : (Section.start.run .loaded).Runs [started] (some (.answered (.ok ()), .running)) :=
    Runs.answered (A := BackendAnswer) (.ok ()) (.result _)
  have fails : (Section.start.run .loaded).Runs
      [⟨.run, some (.error (.connection "refused"))⟩, ⟨.shutdown, some (.error (.io "gone"))⟩]
      (some (.answered (.error (.connection "refused")), .shutdown)) :=
    Runs.answered (A := BackendAnswer) (.error _) (Runs.answered (A := BackendAnswer) (.error _) (.result _))
  have reverts (state : Lifecycle) : (Section.revert.run state).Runs [⟨.shutdown, some (.ok ())⟩]
      (some (.answered (.ok ()), .shutdown)) :=
    Runs.answered (A := BackendAnswer) (.ok ()) (.result _)
  have h : Reachable sample {} := .start
  -- both are loaded
  replace h := h.step (.call rfl (.inl rfl))
  replace h := h.step (.go rfl (.on (loads _)))
  replace h := h.step (.go rfl (.on (loads _)))
  replace h := h.step (.finish rfl)
  -- the second one fails to start, and the first one is taken back
  replace h := h.step (.call rfl (.inr (.inl rfl)))
  replace h := h.step (.go rfl (.on starts))
  replace h := h.step (.go rfl (.on fails))
  replace h := h.step (.go rfl (.on (reverts _)))
  replace h := h.step (.finish rfl)
  -- so that there is nothing left to shut down
  replace h := h.step (.call rfl (.inr (.inr rfl)))
  replace h := h.step (.go rfl (.on (.result _)))
  replace h := h.step (.go rfl (.on (.result _)))
  replace h := h.step (.finish rfl)
  obtain ⟨hkept, hdelivery⟩ := lives_kept h
  refine ⟨_, h, rfl, rfl, fun id => (hkept id).1, fun p f => ?_⟩
  exact (hdelivery "a" {} []).2 List.mem_cons_self (by simp [Floor.after]) p f

end Site
end Courier.Registry
