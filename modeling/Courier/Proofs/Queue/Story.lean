import Courier.Proofs.Queue.Task
import Courier.Queue.Consumer
/-
What befalls a task that a consumer takes off a queue: it is handed to its handler, the
handler returns, and the task is settled. If it is to be tried again, it is handed out
once more when the wait is over. This alone, what may follow on what, says how often a
task is tried, which count each try sees, and how it ends.
-/

namespace Courier.Consumption

open Number (Binary64)

inductive Note
  /-- The handler was called, at some time. -/
  | handed (at_ : Time)
  | returned (result : Except TaskFailure Unit)
  /-- The handler broke down without a result. -/
  | broke
  /-- The queue settled the task, at some time. -/
  | settled (st : Settlement) (at_ : Time)

/-- What was noted, and of which task. -/
structure Entry where
  task : Task
  note : Note

/-- What comes after an entry of a task: a task that is to be tried again is not handed out before its wait is over. -/
inductive Follows (config : ConsumerConfig) : Entry → Entry → Prop
  | returned (u : Task) (s : Time) (result : Except TaskFailure Unit) : Follows config ⟨u, .handed s⟩ ⟨u, .returned result⟩
  | broke (u : Task) (s : Time) : Follows config ⟨u, .handed s⟩ ⟨u, .broke⟩
  | settled (u : Task) (result : Except TaskFailure Unit) (draw : Binary64 → Binary64 → Binary64) (s : Time) :
    Follows config ⟨u, .returned result⟩ ⟨u, .settled (config.settlement draw u result) s⟩
  | again (u : Task) {wait : Nat} {s s' : Time} (h : s + wait ≤ s') :
    Follows config ⟨u, .settled (.retry wait) s⟩ ⟨u.next, .handed s'⟩

/-- What befell a task since it came to a consumer, the latest first. -/
inductive Story (config : ConsumerConfig) (t : Task) : List Entry → Prop
  | came : Story config t []
  | first (s : Time) : Story config t [⟨t, .handed s⟩]
  | later {e e' : Entry} {l : List Entry} (h : Story config t (e :: l)) (next : Follows config e e') :
    Story config t (e' :: e :: l)

/-- The tasks that the handler was called for, the first first. -/
def tries : List Entry → List Task
  | [] => []
  | ⟨u, .handed _⟩ :: l => tries l ++ [u]
  | ⟨_, .returned _⟩ :: l | ⟨_, .broke⟩ :: l | ⟨_, .settled _ _⟩ :: l => tries l

/-- How far a try has come. -/
def Note.rank : Note → Nat
  | handed _ => 1
  | returned _ | broke => 2
  | settled _ _ => 3

theorem Note.rank_le (n : Note) : n.rank ≤ 3 := by
  cases n <;> simp [rank]

/-- Whether nothing follows. -/
def Note.isLast : Note → Bool
  | broke | settled .ack _ | settled (.deadLetter _) _ => true
  | handed _ | returned _ | settled (.retry _) _ => false

section

variable {config : ConsumerConfig} {draw : Binary64 → Binary64 → Binary64} {t u : Task} {result : Except TaskFailure Unit}

/-- Only a task that may be tried again is put aside. -/
theorem settlement_retry {wait : Nat} (h : config.settlement draw u result = .retry wait) : u.attempts < config.maxRetries := by
  unfold ConsumerConfig.settlement at h
  split at h
  · cases h
  · split at h
    · assumption
    · cases h
  · cases h

variable {e e' : Entry} {l later earlier : List Entry}

theorem Story.suffix (h : Story config t (later ++ earlier)) : Story config t earlier := by
  induction later with
  | nil => exact h
  | cons e later ih =>
    refine ih ?_
    cases h' : later ++ earlier with
    | nil => exact .came
    | cons e' l =>
      rw [List.cons_append, h'] at h
      cases h with
      | later h _ => exact h

theorem Story.follows (h : Story config t (later ++ e' :: e :: earlier)) : Follows config e e' := by
  cases h.suffix with
  | later _ next => exact next

/-- **What a try sees, and how far tries go.** Each try of a task sees a count that is one higher than that of the try
before, and no try goes beyond the limit, but for the first. -/
theorem Story.counts (hm : config.maxRetries < 2 ^ 32) (h : Story config t (e :: l)) :
    ∃ k, tries (e :: l) = (List.range' t.attempts (k + 1)).map t.withAttempts ∧
      e.task = t.withAttempts (t.attempts + k) ∧ t.attempts + k ≤ max t.attempts config.maxRetries ∧
      ∀ wait s, e.note = .settled (.retry wait) s → t.attempts + k < config.maxRetries := by
  generalize hl : e :: l = all at h
  induction h generalizing e l with
  | came => cases hl
  | first s =>
    cases hl
    exact ⟨0, rfl, rfl, Nat.le_max_left _ _, nofun⟩
  | @later e₀ e' l' _ next ih =>
    cases hl
    obtain ⟨k, htries, htask, hmax, hretry⟩ := ih rfl
    cases next with
    | returned | broke => exact ⟨k, htries, htask, hmax, nofun⟩
    | settled u result draw s =>
      refine ⟨k, htries, htask, hmax, fun wait s' h => ?_⟩
      have hlt := settlement_retry (Note.settled.inj h).1
      rwa [show u = _ from htask] at hlt
    | @again u wait s s' =>
      have hlt := hretry wait s rfl
      have hnext : u.next = t.withAttempts (t.attempts + (k + 1)) := by
        rw [show u = _ from htask, Task.next_eq, Task.withAttempts_withAttempts]
        congr 1
        exact Nat.mod_eq_of_lt (by simp only [Task.withAttempts]; omega)
      refine ⟨k + 1, ?_, hnext, by omega, nofun⟩
      calc tries (_ :: l') ++ [u.next]
          = (List.range' t.attempts (k + 1)).map t.withAttempts ++ [t.withAttempts (t.attempts + (k + 1))] := by
            rw [htries, hnext]
        _ = (List.range' t.attempts (k + 1) ++ [t.attempts + 1 * (k + 1)]).map t.withAttempts := by simp
        _ = (List.range' t.attempts (k + 1 + 1)).map t.withAttempts := by rw [← List.range'_concat]

/-- A story is as long as its tries are many. -/
theorem Story.length_eq (h : Story config t (e :: l)) : (e :: l).length + 3 = 3 * (tries (e :: l)).length + e.note.rank := by
  generalize hl : e :: l = all at h
  induction h generalizing e l with
  | came => cases hl
  | first s =>
    cases hl
    rfl
  | @later e₀ e' l' _ next ih =>
    cases hl
    have h := ih rfl
    cases next <;> simp only [tries, Note.rank, List.length_cons, List.length_append, List.length_nil] at h ⊢ <;> omega

theorem Story.tries_le (hm : config.maxRetries < 2 ^ 32) (h : Story config t l) :
    (tries l).length ≤ config.maxRetries - t.attempts + 1 := by
  cases l with
  | nil => exact Nat.zero_le _
  | cons e l =>
    obtain ⟨k, htries, -, hmax, -⟩ := h.counts hm
    rw [htries, List.length_map, List.length_range']
    omega

theorem Story.tries_eq (hm : config.maxRetries < 2 ^ 32) (h : Story config t l) :
    tries l = (List.range' t.attempts (tries l).length).map t.withAttempts := by
  cases l with
  | nil => rfl
  | cons e l =>
    obtain ⟨k, htries, -⟩ := h.counts hm
    rw [htries, List.length_map, List.length_range']

theorem Story.length_le (hm : config.maxRetries < 2 ^ 32) (h : Story config t l) :
    l.length ≤ 3 * (config.maxRetries - t.attempts + 1) := by
  cases l with
  | nil => exact Nat.zero_le _
  | cons e l =>
    have hlength := h.length_eq
    have htries := h.tries_le hm
    have hrank := e.note.rank_le
    omega

/-! ## How a try goes on -/

theorem Story.after_settled {st : Settlement} {s : Time} (h : Story config t (later ++ ⟨u, .settled st s⟩ :: earlier)) :
    later = [] ∨ ∃ wait s' rest, st = .retry wait ∧ later = rest ++ [⟨u.next, .handed s'⟩] ∧ s + wait ≤ s' := by
  rcases later.eq_nil_or_concat with rfl | ⟨rest, e', rfl⟩
  · exact .inl rfl
  · rw [List.concat_eq_append, List.append_assoc, List.singleton_append] at h
    cases h.follows with
    | again _ hwait => exact .inr ⟨_, _, rest, rfl, List.concat_eq_append, hwait⟩

theorem Story.after_returned (h : Story config t (later ++ ⟨u, .returned result⟩ :: earlier)) :
    later = [] ∨ ∃ draw s rest, later = rest ++ [⟨u, .settled (config.settlement draw u result) s⟩] ∧
      (rest = [] ∨ ∃ wait s' rest', config.settlement draw u result = .retry wait ∧
        rest = rest' ++ [⟨u.next, .handed s'⟩] ∧ s + wait ≤ s') := by
  rcases later.eq_nil_or_concat with rfl | ⟨rest, e', rfl⟩
  · exact .inl rfl
  · rw [List.concat_eq_append, List.append_assoc, List.singleton_append] at h
    cases h.follows with
    | settled _ _ draw s => exact .inr ⟨draw, s, rest, List.concat_eq_append, h.after_settled⟩

/-- After a result on which the task is not tried again, it is settled, and nothing else. -/
theorem Story.ends (h : Story config t (later ++ ⟨u, .returned result⟩ :: earlier)) {st : Settlement}
    (hst : ∀ draw, config.settlement draw u result = st) (hlast : ∀ wait, st ≠ .retry wait) :
    later = [] ∨ ∃ s, later = [⟨u, .settled st s⟩] := by
  rcases h.after_returned with rfl | ⟨draw, s, rest, rfl, hrest⟩
  · exact .inl rfl
  · right
    rcases hrest with rfl | ⟨wait, -, -, hwait, -⟩
    · exact ⟨s, by rw [hst, List.nil_append]⟩
    · exact absurd ((hst draw).symm.trans hwait) (hlast wait)

end

end Courier.Consumption
