import Courier.Proofs.Keyed
import Courier.Proofs.Shutdown
/-
Starting all targets of a registry: all of them run in the end, or none that was started
by it. The first target that is not loaded, or does not start, ends it, and those before
it are shut down, the last one first, whether they like it or not.

The calls on the targets are looked at in one order over all targets (`asCalls`), for
what matters is that one target is shut down after another.
-/

namespace Courier.Registry

open Procedure

/-- A call on a target of a registry. -/
abbrev TargetCall : Type := String × BackendCall

abbrev TargetCall.Answer (q : TargetCall) : Type := BackendAnswer q.2

abbrev TargetLog : Type := Log TargetCall.Answer

/-- The states of the targets after a step on one of them. -/
def become (states : String → Lifecycle) (id : String) (state : Lifecycle) : String → Lifecycle :=
  fun k => if k = id then state else states k

theorem become_same {states : String → Lifecycle} {id : String} : become states id (states id) = states := by
  funext k
  simp only [become]
  split
  · next he => rw [he]
  · rfl

/-- Work of a registry as calls on its targets, with nothing beside it. -/
def asCalls {α : Type} : RegistryWork α → (String → Lifecycle) →
    Procedure TargetCall TargetCall.Answer (α × (String → Lifecycle))
  | .result a, states => .result (a, states)
  | .ask (.on id s) next, states =>
    ((s.run (states id)).through fun c => query (A := TargetCall.Answer) (id, c)).bind fun r =>
      asCalls (next r.1) (become states id r.2)
  | .ask (.count _) next, states => asCalls (next ()) states

section

variable {α β : Type} {states states' : String → Lifecycle} {l : TargetLog}

/-- What one target was asked, as calls on the targets. -/
def callsOn (id : String) (log : Log BackendAnswer) : TargetLog :=
  Log.translate (B := TargetCall.Answer) (fun c => (id, c)) log

@[simp] theorem callsOn_nil {id : String} : callsOn id [] = [] := rfl

@[simp] theorem callsOn_cons {id : String} {c : BackendCall} {x : Option (BackendAnswer c)} {log : Log BackendAnswer} :
    callsOn id (⟨c, x⟩ :: log) = ⟨(id, c), x⟩ :: callsOn id log := rfl

/-- Work that is done did its first step, and then the rest. -/
theorem asCalls_on {id : String} {s : Section} {next : SectionOutcome → RegistryWork α} {a : α}
    (h : (asCalls (.ask (.on id s) next) states).Runs l (some (a, states'))) :
    ∃ log o state rest, (s.run (states id)).Runs log (some (o, state)) ∧ l = callsOn id log ++ rest ∧
      (asCalls (next o) (become states id state)).Runs rest (some (a, states')) := by
  rcases runs_bind h with ⟨-, hr⟩ | ⟨⟨o, state⟩, l₁, l₂, rfl, h₁, h₂⟩
  · cases hr
  obtain ⟨log, hruns, rfl⟩ := runs_through (B := TargetCall.Answer) (f := fun c => (id, c)) h₁
  exact ⟨log, o, state, l₂, hruns, rfl, h₂⟩

/-- What one target was asked, among calls on all targets. -/
def callsTo (id : String) (l : TargetLog) : Log BackendAnswer :=
  l.filterMap fun y => if y.1.1 = id then some ⟨y.1.2, y.2⟩ else none

theorem callsTo_callsOn {id k : String} {log : Log BackendAnswer} :
    callsTo k (callsOn id log ++ l) = (if k = id then log else []) ++ callsTo k l := by
  simp only [callsTo, List.filterMap_append]
  congr 1
  induction log with
  | nil => by_cases hk : k = id <;> simp [hk]
  | cons y log ih =>
    rw [callsOn_cons, List.filterMap_cons, ih]
    by_cases hk : k = id
    · simp [hk]
    · simp [hk, Ne.symm hk]

/-- The calls in one order are a course with nothing beside it, and leave each target as it does. -/
theorem carried_of_asCalls (r : Registry) {p : RegistryWork α} {a : α} {f : Floor}
    (h : (asCalls p f.states).Runs l (some (a, states'))) :
    ∃ f', Carried r p f a f' ∧ f'.states = states' ∧ ∀ id, f'.calls id = (callsTo id l).reverse ++ f.calls id := by
  induction p generalizing f l with
  | result a' =>
    obtain ⟨rfl, hr⟩ := runs_result h
    cases hr
    exact ⟨f, .done, rfl, fun _ => rfl⟩
  | ask q next ih =>
    cases q with
    | on id s =>
      obtain ⟨log, o, state, rest, hstep, rfl, hrest⟩ := asCalls_on h
      obtain ⟨f', hcarried, hstates, hcalls⟩ := ih o (f := f.after id log state) hrest
      refine ⟨f', .go (.on hstep) hcarried, hstates, fun k => ?_⟩
      rw [hcalls k, callsTo_callsOn]
      by_cases hk : k = id <;> simp [Floor.after, hk]
    | count c =>
      obtain ⟨f', hcarried, hstates, hcalls⟩ := ih () h
      exact ⟨f', .go .count hcarried, hstates, hcalls⟩

/-! ## Taking starts back -/

/-- Each target is shut down once, and whatever it answers, so is the next; what comes of it all was settled before. -/
theorem rollBack_runs {ids : List String} {x y : β}
    (h : (asCalls ((rollBack ids).bind fun _ => .result x) states).Runs l (some (y, states'))) :
    y = x ∧ l.map (·.1) = ids.map (fun id => (id, .shutdown)) ∧
      ∀ k, states' k = if k ∈ ids then .shutdown else states k := by
  induction ids generalizing states l with
  | nil =>
    obtain ⟨rfl, hr⟩ := runs_result h
    cases hr
    exact ⟨rfl, rfl, fun k => by simp⟩
  | cons id ids ih =>
    obtain ⟨log, o, state, rest, hstep, rfl, hrest⟩ := asCalls_on h
    obtain ⟨z, rfl, -, rfl⟩ := Section.revert_runs hstep
    obtain ⟨hy, hcalls, hstates⟩ := ih hrest
    refine ⟨hy, by simp [hcalls], fun k => ?_⟩
    rw [hstates k, become]
    by_cases hk : k ∈ ids <;> by_cases he : k = id <;> simp [hk, he]

end

/-! ## Starting -/

/-- A target that was asked to start, and did. -/
def startedCall (id : String) : (q : TargetCall) × Option q.Answer := ⟨(id, .run), some (.ok ())⟩

section

variable (states : String → Lifecycle) (l : TargetLog) (x : Except RegistryError Unit) (states' : String → Lifecycle)

/-- All targets were loaded, and all of them started in their order. -/
structure AllStarted (ids : List String) : Prop where
  loaded : ∀ id ∈ ids, states id = .loaded
  calls : l = ids.map startedCall
  result : x = .ok ()
  states : ∀ id, states' id = if id ∈ ids then .running else states id

/-- The first target `k` that was not loaded, or did not start, came after some that did, and in
the end those that are `undone` were shut down. No other target was asked anything. -/
structure Undone (before : List String) (k : String) (undone : List String) : Prop where
  loaded : ∀ id ∈ before, states id = .loaded
  calls : ∃ fall back, l = before.map startedCall ++ fall ++ back ∧
    back.map (·.1) = undone.map (fun id => (id, BackendCall.shutdown)) ∧
    (states k ≠ .loaded ∧ fall = [] ∧ x = .error (.notRunning k (states k)) ∨
      states k = .loaded ∧ ∃ e z, fall = [⟨(k, .run), some (.error e)⟩, ⟨(k, .shutdown), some z⟩] ∧ x = .error (.backend k e))
  states : ∀ id, states' id = if id ∈ undone ∨ id = k ∧ states k = .loaded then .shutdown else states id

end

theorem startEach_runs {started ids : List String} {states states' : String → Lifecycle} {l : TargetLog}
    {x : Except RegistryError Unit} (hnodup : ids.Nodup)
    (h : (asCalls (startEach started ids) states).Runs l (some (x, states'))) :
    AllStarted states l x states' ids ∨
      ∃ before k after, ids = before ++ k :: after ∧ Undone states l x states' before k (before.reverse ++ started) := by
  induction ids generalizing started states l with
  | nil =>
    obtain ⟨rfl, hr⟩ := runs_result h
    cases hr
    exact .inl ⟨by simp, rfl, rfl, fun id => by simp⟩
  | cons id ids ih =>
    obtain ⟨log, o, state, rest, hstep, rfl, hrest⟩ := asCalls_on h
    rcases Section.start_runs hstep with ⟨hstate, rfl, rfl, rfl⟩ | ⟨hloaded, ⟨rfl, rfl, rfl⟩ | ⟨e, z, rfl, rfl, rfl⟩⟩
    · obtain ⟨rfl, hcalls, hstates⟩ := rollBack_runs hrest
      refine .inr ⟨[], id, ids, rfl, by simp, ⟨[], rest, rfl, hcalls, .inl ⟨hstate, rfl, rfl⟩⟩, fun k => ?_⟩
      simp [hstates k, hstate, become_same]
    · -- the targets behind it are as they were
      have hother {k : String} (hk : k ∈ ids) : become states id .running k = states k :=
        if_neg fun (he : k = id) => (List.nodup_cons.1 hnodup).1 (he ▸ hk)
      rcases ih (List.nodup_cons.1 hnodup).2 hrest with hall | ⟨before, k, after, rfl, hundone⟩
      · refine .inl ⟨fun j hj => ?_, by rw [hall.calls]; rfl, hall.result, fun j => ?_⟩
        · rcases List.mem_cons.1 hj with rfl | hj
          · exact hloaded
          · rw [← hother hj]
            exact hall.loaded j hj
        · rw [hall.states j, become]
          by_cases hj : j ∈ ids <;> by_cases he : j = id <;> simp [hj, he]
      · obtain ⟨fall, back, rfl, hback, hcause⟩ := hundone.calls
        have hk : become states id .running k = states k := hother (by simp)
        rw [hk] at hcause
        have hundo : before.reverse ++ id :: started = (id :: before).reverse ++ started := by simp
        rw [hundo] at hback
        refine .inr ⟨id :: before, k, after, rfl, fun j hj => ?_, ⟨fall, back, rfl, hback, hcause⟩, fun j => ?_⟩
        · rcases List.mem_cons.1 hj with rfl | hj
          · exact hloaded
          · rw [← hother (List.mem_append_left _ hj)]
            exact hundone.loaded j hj
        · rw [hundone.states j, hundo, hk, become]
          by_cases he : j = id <;> simp [he]
    · obtain ⟨rfl, hcalls, hstates⟩ := rollBack_runs hrest
      refine .inr ⟨[], id, ids, rfl, by simp, ⟨_, rest, rfl, hcalls, .inr ⟨hloaded, e, z, rfl, rfl⟩⟩, fun k => ?_⟩
      rw [hstates k, become]
      by_cases hk : k ∈ started <;> by_cases he : k = id <;> simp [hk, he, hloaded]

/-- **All targets are started, or none stays started.** The targets are started in the order of their
identifiers up to the first that is not loaded or does not start; if there is one, it is shut down if it was
asked to start, those before it are shut down in the reverse order, whatever they answer, and it is the one
that the error tells of. -/
theorem runAll_all_or_none (targets : List (String × TargetKind)) (states : String → Lifecycle) {l : TargetLog}
    {r : Option (Except RegistryError Unit × (String → Lifecycle))}
    (h : (asCalls (runAll ⟨ofList targets⟩) states).Runs l r) (hanswered : Log.Answered (fun _ _ => True) l) :
    (ids ⟨ofList targets⟩).Pairwise (· < ·) ∧ ∃ x states', r = some (x, states') ∧
      (AllStarted states l x states' (ids ⟨ofList targets⟩) ∨
        ∃ before k after, ids ⟨ofList targets⟩ = before ++ k :: after ∧
          Undone states l x states' before k before.reverse) := by
  have hsorted := ofList_sorted targets
  obtain ⟨⟨x, states'⟩, rfl, -⟩ := gives_of_runs h hanswered
  refine ⟨hsorted, x, states', rfl, ?_⟩
  rcases startEach_runs (hsorted.imp ne_of_lt) h with hall | ⟨before, k, after, hids, hundone⟩
  · exact .inl hall
  · rw [List.append_nil] at hundone
    exact .inr ⟨before, k, after, hids, hundone⟩

/-- Three targets, of which the last one does not start. -/
def sampleTargets : List (String × TargetKind) := [("c", .xmpp), ("a", .apprise), ("b", .xmpp)]

/-- Two targets start, and one of them does not shut down in good order. -/
def sampleAnswer : (q : TargetCall) → q.Answer
  | ("c", .run) => .error (.connection "refused")
  | ("b", .shutdown) => .error (.io "broken pipe")
  | _ => .ok ()

/-- The targets are started by these answers, when all of them are loaded. -/
def sampleStart : Procedure TargetCall TargetCall.Answer (Except RegistryError Unit × (String → Lifecycle)) :=
  asCalls (runAll ⟨ofList sampleTargets⟩) fun _ => .loaded

/-- The one that fails is shut down first, and the others in the reverse order. -/
theorem sample_all_or_none : sampleStart.Runs (sampleStart.logWith sampleAnswer) (some (sampleStart.run (m := Id) sampleAnswer)) ∧
    Log.Answered (fun _ _ => True) (sampleStart.logWith sampleAnswer) ∧
    (sampleStart.logWith sampleAnswer).map (·.1.1) = ["a", "b", "c", "c", "b", "a"] ∧
    ∃ states' before k after, ids ⟨ofList sampleTargets⟩ = before ++ k :: after ∧
      Undone (fun _ => .loaded) (sampleStart.logWith sampleAnswer) (.error (.backend "c" (.connection "refused"))) states'
        before k before.reverse := by
  have h := runs_logWith sampleAnswer sampleStart
  have hanswered : Log.Answered (fun _ _ => True) (sampleStart.logWith sampleAnswer) := answered_logWith fun _ => trivial
  refine ⟨h, hanswered, rfl, ?_⟩
  obtain ⟨-, x, states', hr, houtcome⟩ := runAll_all_or_none sampleTargets (fun _ => .loaded) h hanswered
  obtain rfl : .error (.backend "c" (.connection "refused")) = x := (Prod.mk.inj (Option.some.inj hr)).1
  rcases houtcome with hall | ⟨before, k, after, hids, hundone⟩
  · cases hall.result
  · exact ⟨states', before, k, after, hids, hundone⟩

end Courier.Registry
