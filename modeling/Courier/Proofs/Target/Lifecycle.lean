import Courier.Target.Registry
import Courier.Proofs.Procedure
/-
The life of one target, as the target sees it: what it was asked so far, and what
it answered. Beside that the registry keeps a state, and goes by the state alone.

What carries the proof is that the state always tells the last event in the life
of the target. So a step that looks at the state before it asks looks at what
happened; the one step that does not look, the one that takes a start back, is
right only on a target that runs.
-/

namespace Courier

open Procedure

/-- A call on a target with its answer; a call that was given up has none. -/
abbrev Invocation : Type := (c : BackendCall) × Option (BackendAnswer c)

namespace Invocation

def loaded : Invocation := ⟨.load, some (.ok ())⟩

def started : Invocation := ⟨.run, some (.ok ())⟩

/-- Whether a call is an event in the life of a target. To be loaded is one if that
succeeds; to be started and to be shut down are events whatever they come to. -/
def isEvent : Invocation → Bool
  | ⟨.load, some (.ok ())⟩ | ⟨.run, _⟩ | ⟨.shutdown, _⟩ => true
  | ⟨.load, _⟩ | ⟨.execute _ _, _⟩ => false

/-- The last event in the life of a target. The latest call comes first. -/
def last? (past : List Invocation) : Option Invocation := past.find? isEvent

/-- Whether a target may be asked something after what it was asked before. -/
def Allowed (past : List Invocation) : BackendCall → Prop
  | .load => True
  | .run => last? past = some loaded
  | .execute _ _ => last? past = some started
  | .shutdown => ∀ later x earlier, past = later ++ ⟨.shutdown, x⟩ :: earlier → loaded ∈ later

/-- Whether a target was never asked what it might not be asked then. -/
def Disciplined : List Invocation → Prop
  | [] => True
  | ⟨c, _⟩ :: past => Allowed past c ∧ Disciplined past

/-- Whether a state tells the last event. -/
def Tells (past : List Invocation) : Lifecycle → Prop
  | .uninitialized => last? past = none
  | .loaded => last? past = some loaded
  | .running => last? past = some started
  | .shutdown => ∃ x, last? past = some ⟨.shutdown, x⟩

variable {past : List Invocation} {y : Invocation}

theorem last?_event (h : y.isEvent = true) : last? (y :: past) = some y := List.find?_cons_of_pos h

theorem last?_other (h : y.isEvent = false) : last? (y :: past) = last? past :=
  List.find?_cons_of_neg (by simp [h])

theorem Tells.other {state : Lifecycle} (h : y.isEvent = false) : Tells (y :: past) state ↔ Tells past state := by
  cases state <;> simp only [Tells, last?_other h]

/-! ## Shutting down -/

theorem allowed_shutdown_loaded : Allowed (loaded :: past) .shutdown := by
  intro later x earlier hpast
  cases later with
  | nil => cases hpast
  | cons z later =>
    obtain ⟨rfl, -⟩ := List.cons.inj hpast
    exact List.mem_cons_self

theorem allowed_shutdown_cons (hy : y.1 ≠ .shutdown) (h : Allowed past .shutdown) : Allowed (y :: past) .shutdown := by
  intro later x earlier hpast
  cases later with
  | nil =>
    cases hpast
    exact absurd rfl hy
  | cons z later =>
    obtain ⟨rfl, hrest⟩ := List.cons.inj hpast
    exact List.mem_cons_of_mem _ (h later x earlier hrest)

/-- Unless it is shut down, a target may be shut down. -/
theorem Tells.allowed_shutdown {state : Lifecycle} (hd : Disciplined past) (h : Tells past state)
    (hstate : state ≠ .shutdown) : Allowed past .shutdown := by
  induction past generalizing state with
  | nil =>
    intro later x earlier hpast
    cases later <;> cases hpast
  | cons y past ih =>
    have hrest : Disciplined past := hd.2
    by_cases hy : y.isEvent = true
    · -- the call is the last event, and the state tells which
      cases state with
      | uninitialized =>
        rw [Tells, last?_event hy] at h
        cases h
      | loaded =>
        rw [Tells, last?_event hy, Option.some.injEq] at h
        subst h
        exact allowed_shutdown_loaded
      | running =>
        rw [Tells, last?_event hy, Option.some.injEq] at h
        subst h
        have hloaded : Tells past .loaded := hd.1
        exact allowed_shutdown_cons (by simp [started]) (ih hrest hloaded (by simp))
      | shutdown => exact absurd rfl hstate
    · have hother : y.isEvent = false := by simpa using hy
      refine allowed_shutdown_cons (fun hc => ?_) (ih hrest ((Tells.other hother).1 h) hstate)
      obtain ⟨c, x⟩ := y
      cases hc
      cases hother

end Invocation

/-! ## Steps -/

namespace Section

open Invocation

/-- Whether a step is right on a target in a state. Only taking a start back depends on it. -/
def Fits (state : Lifecycle) : Section → Prop
  | .revert => state = .running
  | .load | .start | .execute _ _ | .stop => True

variable {s : Section} {state : Lifecycle} {past : List Invocation} {log : Log BackendAnswer}

/-- What starting a target comes to: it is refused, or the target starts, or does not and is shut down. -/
theorem start_runs {o : SectionOutcome} {state' : Lifecycle} (h : (start.run state).Runs log (some (o, state'))) :
    state ≠ .loaded ∧ log = [] ∧ o = .refused state ∧ state' = state ∨
      state = .loaded ∧ (log = [⟨.run, some (.ok ())⟩] ∧ o = .answered (.ok ()) ∧ state' = .running ∨
        ∃ e z, log = [⟨.run, some (.error e)⟩, ⟨.shutdown, some z⟩] ∧ o = .answered (.error e) ∧ state' = .shutdown) := by
  simp only [Section.run] at h
  split at h
  · next hstate =>
    obtain ⟨rfl, hr⟩ := runs_result h
    cases hr
    exact .inl ⟨hstate, rfl, rfl, rfl⟩
  next hstate =>
  refine .inr ⟨Decidable.not_not.1 hstate, ?_⟩
  rcases runs_ask h with ⟨-, hr⟩ | ⟨x, l, rfl, h₁⟩
  · cases hr
  cases x with
  | ok _ =>
    obtain ⟨rfl, hr⟩ := runs_result h₁
    cases hr
    exact .inl ⟨rfl, rfl, rfl⟩
  | error e =>
    rcases runs_ask h₁ with ⟨-, hr⟩ | ⟨z, l', rfl, h₂⟩
    · cases hr
    obtain ⟨rfl, hr⟩ := runs_result h₂
    cases hr
    exact .inr ⟨e, z, rfl, rfl, rfl⟩

/-- A start that is taken back leaves the target shut down, whatever it answers. -/
theorem revert_runs {o : SectionOutcome} {state' : Lifecycle} (h : (revert.run state).Runs log (some (o, state'))) :
    ∃ z, log = [⟨.shutdown, some z⟩] ∧ o = .answered (.ok ()) ∧ state' = .shutdown := by
  rcases runs_ask h with ⟨-, hr⟩ | ⟨z, l, rfl, h₁⟩
  · cases hr
  obtain ⟨rfl, hr⟩ := runs_result h₁
  cases hr
  exact ⟨z, rfl, rfl, rfl⟩

/-- A step that is done asks nothing that may not be asked, and the state it leaves tells the last event. -/
theorem run_tells {o : SectionOutcome} {state' : Lifecycle} (hd : Disciplined past) (htells : Tells past state)
    (hfits : s.Fits state) (h : (s.run state).Runs log (some (o, state'))) :
    Disciplined (log.reverse ++ past) ∧ Tells (log.reverse ++ past) state' := by
  cases s with
  | load =>
    rcases runs_ask h with ⟨rfl, hr⟩ | ⟨x, l, rfl, h₁⟩
    · cases hr
    have hload : Disciplined (⟨.load, some x⟩ :: past) := ⟨trivial, hd⟩
    cases x with
    | ok _ =>
      obtain ⟨rfl, hr⟩ := runs_result h₁
      cases hr
      exact ⟨hload, last?_event rfl⟩
    | error e =>
      obtain ⟨rfl, hr⟩ := runs_result h₁
      cases hr
      exact ⟨hload, (Tells.other rfl).2 htells⟩
  | start =>
    rcases start_runs h with ⟨-, rfl, -, rfl⟩ | ⟨rfl, ⟨rfl, -, rfl⟩ | ⟨e, z, rfl, -, rfl⟩⟩
    · exact ⟨hd, htells⟩
    · exact ⟨⟨htells, hd⟩, last?_event rfl⟩
    · -- what was begun is given up again
      have hshutdown := allowed_shutdown_cons (y := ⟨.run, some (.error e)⟩) (by simp)
        (Tells.allowed_shutdown hd htells (by simp))
      exact ⟨⟨hshutdown, htells, hd⟩, some z, last?_event rfl⟩
  | revert =>
    obtain ⟨z, rfl, -, rfl⟩ := revert_runs h
    have hrunning : state = .running := hfits
    exact ⟨⟨Tells.allowed_shutdown hd htells (by simp [hrunning]), hd⟩, some z, last?_event rfl⟩
  | execute m args =>
    simp only [Section.run] at h
    split at h
    · obtain ⟨rfl, hr⟩ := runs_result h
      cases hr
      exact ⟨hd, htells⟩
    next hrunning =>
    have hrunning : state = .running := Decidable.not_not.1 hrunning
    subst hrunning
    rcases runs_ask h with ⟨rfl, hr⟩ | ⟨x, l, rfl, h₁⟩
    · cases hr
    obtain ⟨rfl, hr⟩ := runs_result h₁
    cases hr
    exact ⟨⟨htells, hd⟩, (Tells.other rfl).2 htells⟩
  | stop =>
    simp only [Section.run] at h
    split at h
    · obtain ⟨rfl, hr⟩ := runs_result h
      cases hr
      exact ⟨hd, htells⟩
    next hstate =>
    rcases runs_ask h with ⟨rfl, hr⟩ | ⟨x, l, rfl, h₁⟩
    · cases hr
    obtain ⟨rfl, hr⟩ := runs_result h₁
    cases hr
    exact ⟨⟨Tells.allowed_shutdown hd htells hstate, hd⟩, some x, last?_event rfl⟩

/-- A delivery that was given up in the middle asked nothing that may not be asked, and was no event. -/
theorem execute_givenUp {m : Message} {args : TargetArgs} (hd : Disciplined past) (htells : Tells past state)
    (h : ((execute m args).run state).Runs log none) :
    Disciplined (log.reverse ++ past) ∧ Tells (log.reverse ++ past) state := by
  simp only [Section.run] at h
  split at h
  · obtain ⟨-, hr⟩ := runs_result h
    cases hr
  next hrunning =>
  have hrunning : state = .running := Decidable.not_not.1 hrunning
  subst hrunning
  rcases runs_ask h with ⟨rfl, -⟩ | ⟨x, l, rfl, h₁⟩
  · exact ⟨⟨htells, hd⟩, (Tells.other rfl).2 htells⟩
  · obtain ⟨-, hr⟩ := runs_result h₁
    cases hr

/-- A delivery leaves the state as it is. -/
theorem execute_state {m : Message} {args : TargetArgs} {o : SectionOutcome} {state' : Lifecycle}
    (h : ((execute m args).run state).Runs log (some (o, state'))) : state' = state := by
  simp only [Section.run] at h
  split at h
  · obtain ⟨-, hr⟩ := runs_result h
    cases hr
    rfl
  · rcases runs_ask h with ⟨-, hr⟩ | ⟨x, l, -, h₁⟩
    · cases hr
    obtain ⟨-, hr⟩ := runs_result h₁
    cases hr
    rfl

/-- A delivery asks nothing but to deliver the message. -/
theorem execute_asks {m : Message} {args : TargetArgs} {r : Option (SectionOutcome × Lifecycle)}
    (h : ((execute m args).run state).Runs log r) {c : BackendCall} {x : Option (BackendAnswer c)} (hx : ⟨c, x⟩ ∈ log) :
    c = .execute m args := by
  simp only [Section.run] at h
  split at h
  · obtain ⟨rfl, -⟩ := runs_result h
    cases hx
  · rcases runs_ask h with ⟨rfl, -⟩ | ⟨y, l, rfl, h₁⟩
    · cases List.mem_singleton.1 hx
      rfl
    · obtain ⟨rfl, -⟩ := runs_result h₁
      cases List.mem_singleton.1 hx
      rfl

/-- A target that is shut down, or was before, is shut down then; what comes of it is the target's answer. -/
theorem stop_cases {o : SectionOutcome} {state' : Lifecycle} (h : (stop.run state).Runs log (some (o, state'))) :
    state' = .shutdown ∧ ∃ x, o = .answered x ∧ ∀ y, ⟨.shutdown, y⟩ ∈ log → y = some x := by
  simp only [Section.run] at h
  split at h
  · next hstate =>
    obtain ⟨rfl, hr⟩ := runs_result h
    cases hr
    exact ⟨hstate, _, rfl, fun y hy => by cases hy⟩
  · rcases runs_ask h with ⟨-, hr⟩ | ⟨x, l, rfl, h₁⟩
    · cases hr
    obtain ⟨rfl, hr⟩ := runs_result h₁
    cases hr
    refine ⟨rfl, x, rfl, fun y hy => ?_⟩
    cases List.mem_singleton.1 hy
    rfl

/-- A target that is not shut down is asked to shut down, whether it answers or not. -/
theorem stop_asks {r : Option (SectionOutcome × Lifecycle)} (h : (stop.run state).Runs log r) (hstate : state ≠ .shutdown) :
    ∃ x, ⟨.shutdown, x⟩ ∈ log := by
  simp only [Section.run, if_neg hstate] at h
  rcases runs_ask h with ⟨rfl, -⟩ | ⟨x, l, rfl, -⟩
  · exact ⟨none, List.mem_cons_self⟩
  · exact ⟨some x, List.mem_cons_self⟩

/-- A step that shuts a target down is given up only while a target that was not shut down is to answer. -/
theorem stop_givenUp (h : (stop.run state).Runs log none) : state ≠ .shutdown := by
  intro hstate
  simp only [Section.run, if_pos hstate] at h
  obtain ⟨-, hr⟩ := runs_result h
  cases hr

end Section
end Courier
