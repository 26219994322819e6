import Courier.Proofs.Worker.Verdict
/-
How a task is counted. Counting it is the last thing that is done for it: a task whose
handling is not over was not counted, and one whose handling is over was counted once,
as its result tells.
-/

namespace Courier

/-- How a task is counted by a question, if it is. -/
def WorkerAsk.record? : WorkerAsk → Option TaskRecord
  | .record k => some k
  | .store _ | .deliver _ _ _ => none

namespace Worker

open Procedure

variable {w : Worker} {t : Task} {l : WorkerLog}

theorem look_unrecorded {α : Type} (p : Lookups α) : (look p).Only (·.record? = none) :=
  Only.through fun _ => ⟨rfl, fun _ => trivial⟩

theorem send_unrecorded (m : Message) (a : Application) (r : ResolvedTarget) :
    (w.send m a r).Only (·.record? = none) := by
  unfold send
  split
  · trivial
  split
  · trivial
  refine ⟨rfl, fun x => ?_⟩
  cases x with
  | error e => trivial
  | ok _ =>
    dsimp only
    split
    · trivial
    · exact (look_unrecorded _).bind fun _ => trivial

/-- Delivering a message counts no task. -/
theorem process_unrecorded (m : Message) : (w.process m).Only (·.record? = none) := by
  refine (look_unrecorded _).bind fun application => ?_
  cases application with
  | error e => trivial
  | ok a =>
    dsimp only
    split
    · trivial
    refine (look_unrecorded _).bind fun target => ?_
    cases target with
    | error e => trivial
    | ok r =>
      dsimp only
      split
      · trivial
      · exact send_unrecorded m a r

/-- What was asked before the task was counted. -/
def Uncounted (l : WorkerLog) : Prop := ∀ x ∈ l, x.1.record? = none

/-- What comes of handling a task: it is not over, and the task was not counted; or the task was counted last. -/
inductive Recorded : WorkerLog → Option (Except TaskFailure Unit) → Prop
  | before {l : WorkerLog} (h : Uncounted l) : Recorded l none
  | counting {l : WorkerLog} {k : TaskRecord} (h : Uncounted l) : Recorded (l ++ [⟨.record k, none⟩]) none
  | after {l : WorkerLog} (v : Except TaskError TaskOutcome) (h : Uncounted l) :
    Recorded (l ++ [⟨.record (.of v), some ()⟩]) (some (reply v))

theorem handle_recorded {r : Option (Except TaskFailure Unit)} (h : (w.handle t).Runs l r) : Recorded l r := by
  unfold handle at h
  dsimp only at h
  split at h
  · next m hm =>
    rcases runs_bind h with ⟨h₁, rfl⟩ | ⟨v, l₁, l₂, rfl, h₁, h₂⟩
    · exact .before ((process_unrecorded m).runs h₁)
    have hbefore : Uncounted l₁ := (process_unrecorded m).runs h₁
    rcases runs_ask h₂ with ⟨rfl, rfl⟩ | ⟨_, l₃, rfl, h₃⟩
    · exact .counting hbefore
    · cases v with
      | ok _ | error _ =>
        obtain ⟨rfl, rfl⟩ := runs_result h₃
        exact .after _ hbefore
  · next e he =>
    have hnone : Uncounted [] := fun _ hx => by cases hx
    rcases runs_ask h with ⟨rfl, rfl⟩ | ⟨_, l₁, rfl, h₁⟩
    · exact .counting (l := []) hnone
    · obtain ⟨rfl, rfl⟩ := runs_result h₁
      exact .after (l := []) (.error e) hnone

end Worker
end Courier
