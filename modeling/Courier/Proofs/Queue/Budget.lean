import Courier.Proofs.Queue.Shift.Progress
/-
How often a task is tried. A consumer on a queue in memory calls the handler for a task no
more often than its limit allows, counting the tries that the task had before; it gives the
task up when they are used up, and not earlier unless its handler does.
-/

namespace Courier.Consumption

/-- What a consumer promises of a task that came to it. Stories have the latest first. -/
structure WithinBudget (config : ConsumerConfig) (t : Task) (w : Shift) : Prop where
  /-- The handler is not called more often than the limit allows. -/
  few : (tries (w.story t.id)).length ≤ config.maxRetries - t.attempts + 1
  /-- Each call sees a count that is one higher than that of the call before. -/
  counted : tries (w.story t.id) = (List.range' t.attempts (tries (w.story t.id)).length).map t.withAttempts
  /-- A task that was handled well is acknowledged, and then is no longer on the queue. -/
  done : ∀ later u earlier, w.story t.id = later ++ ⟨u, .returned (.ok ())⟩ :: earlier →
    later = [] ∨ ∃ s, later = [⟨u, .settled .ack s⟩] ∧ u ∈ w.site.acknowledged ∧ ∀ v ∈ w.site.queue.tasks, v.id ≠ u.id
  /-- A task that its handler gives up is dead for the reason of the handler. -/
  failed : ∀ later u reason earlier, w.story t.id = later ++ ⟨u, .returned (.error (.fatal reason))⟩ :: earlier →
    later = [] ∨ ∃ s, later = [⟨u, .settled (.deadLetter reason) s⟩] ∧ w.Dead u reason
  /-- When its tries are used up, a task is dead, and the reason says so. -/
  exhausted : ∀ later u reason earlier, w.story t.id = later ++ ⟨u, .returned (.error (.retry reason))⟩ :: earlier →
    config.maxRetries ≤ u.attempts →
      u = t.withAttempts (max t.attempts config.maxRetries) ∧
      (tries (w.story t.id)).length = config.maxRetries - t.attempts + 1 ∧
      (later = [] ∨ ∃ s, later = [⟨u, .settled (.deadLetter ("retries exhausted: " ++ reason)) s⟩] ∧
        w.Dead u ("retries exhausted: " ++ reason))
  /-- Otherwise it is put aside, and tried again when the wait for the next attempt is over. -/
  again : ∀ later u reason earlier, w.story t.id = later ++ ⟨u, .returned (.error (.retry reason))⟩ :: earlier →
    u.attempts < config.maxRetries →
      u.attempts + 1 < 2 ^ 32 ∧
      (later = [] ∨ ∃ draw s rest,
        later = rest ++ [⟨u, .settled (.retry (config.backoff.delay draw (u.attempts + 1))) s⟩] ∧
        (rest = [] ∨ ∃ s' rest', rest = rest' ++ [⟨u.withAttempts (u.attempts + 1), .handed s'⟩] ∧
          s + config.backoff.delay draw (u.attempts + 1) ≤ s'))

section

variable {config : ConsumerConfig} {w : Shift} {t u : Task} {later earlier : List Entry} {reason : String}

/-- Acknowledged tasks are on the queue no more. -/
theorem Invariant.notMem_tasks {s : Site} (h : Invariant s) (hu : u ∈ s.acknowledged) : ∀ v ∈ s.queue.tasks, v.id ≠ u.id := by
  have hids := h.ids
  rw [List.map_append, List.nodup_append] at hids
  exact fun v hv => hids.2.2 v.id (List.mem_map_of_mem hv) u.id (List.mem_map_of_mem hu)

theorem settlement_exhausted (draw) (h : config.maxRetries ≤ u.attempts) :
    config.settlement draw u (.error (.retry reason)) = .deadLetter ("retries exhausted: " ++ reason) := by
  simp only [ConsumerConfig.settlement]
  exact if_neg (Nat.not_lt.2 h)

theorem settlement_again (draw) (h : u.attempts < config.maxRetries) :
    config.settlement draw u (.error (.retry reason)) = .retry (config.backoff.delay draw (u.attempts + 1)) := by
  simp only [ConsumerConfig.settlement]
  exact if_pos h

/-- How often a task was tried whose tries are used up. -/
theorem Story.exhausted (hm : config.maxRetries < 2 ^ 32) {note : Note} (h : Story config t (⟨u, note⟩ :: earlier))
    (hu : config.maxRetries ≤ u.attempts) :
    u = t.withAttempts (max t.attempts config.maxRetries) ∧
      (tries (⟨u, note⟩ :: earlier)).length = config.maxRetries - t.attempts + 1 := by
  obtain ⟨k, htries, htask, hmax, -⟩ := h.counts hm
  obtain rfl : u = t.withAttempts (t.attempts + k) := htask
  have hk : config.maxRetries ≤ t.attempts + k := hu
  rw [htries, List.length_map, List.length_range']
  exact ⟨congrArg t.withAttempts (by omega), by omega⟩

theorem Shift.Kept.withinBudget (hm : config.maxRetries < 2 ^ 32) (h : Shift.Kept config w) (ht : t ∈ w.came) :
    WithinBudget config t w := by
  obtain ⟨hstory, hshows⟩ := h.told t ht
  -- what a settlement did is where the story shows it
  have shown {e : Entry} {l : List Entry} (hl : w.story t.id = [e] ++ l) : Shift.Shows config w t (e :: l) := by
    rwa [hl] at hshows
  refine ⟨hstory.tries_le hm, hstory.tries_eq hm, ?_, ?_, ?_, ?_⟩
  · intro later u earlier hl
    rcases (hl ▸ hstory).ends (fun _ => rfl) (fun _ => nofun) with rfl | ⟨s, rfl⟩
    · exact .inl rfl
    · have hack : u ∈ w.site.acknowledged := shown hl
      exact .inr ⟨s, rfl, hack, h.site.notMem_tasks hack⟩
  · intro later u reason earlier hl
    rcases (hl ▸ hstory).ends (fun _ => rfl) (fun _ => nofun) with rfl | ⟨s, rfl⟩
    · exact .inl rfl
    · exact .inr ⟨s, rfl, shown hl⟩
  · intro later u reason earlier hl hu
    have hstory' := hl ▸ hstory
    obtain ⟨hattempts, htries⟩ := hstory'.suffix.exhausted hm hu
    rcases hstory'.ends (fun draw => settlement_exhausted draw hu) (fun _ => nofun) with rfl | ⟨s, rfl⟩
    · exact ⟨hattempts, hl ▸ htries, .inl rfl⟩
    · exact ⟨hattempts, hl ▸ htries, .inr ⟨s, rfl, shown hl⟩⟩
  · intro later u reason earlier hl hu
    refine ⟨by omega, ?_⟩
    have hnext : u.next = u.withAttempts (u.attempts + 1) := by
      rw [Task.next_eq, Nat.mod_eq_of_lt (by omega)]
    rcases (hl ▸ hstory).after_returned with rfl | ⟨draw, s, rest, rfl, hrest⟩
    · exact .inl rfl
    · rw [settlement_again draw hu] at hrest ⊢
      refine .inr ⟨draw, s, rest, rfl, hrest.imp_right ?_⟩
      rintro ⟨wait, s', rest', hwait, rfl, hs'⟩
      cases hwait
      exact ⟨s', rest', by rw [hnext], hs'⟩

/-- How a story ends in which the handler always asks for another attempt. -/
theorem Story.ends_exhausted {l : List Entry} (h : Story config t l) (hended : Ended l)
    (hretry : ∀ u result, ⟨u, .returned result⟩ ∈ l → ∃ reason, result = .error (.retry reason))
    (hbroke : ∀ u, ⟨u, .broke⟩ ∉ l) :
    ∃ u reason s earlier, config.maxRetries ≤ u.attempts ∧
      l = ⟨u, .settled (.deadLetter ("retries exhausted: " ++ reason)) s⟩ ::
        ⟨u, .returned (.error (.retry reason))⟩ :: earlier := by
  obtain ⟨e, he, hlast⟩ := hended
  cases h with
  | came => cases he
  | first s =>
    cases he
    cases hlast
  | @later e₀ e' l h next =>
    cases he
    cases next with
    | returned | again _ _ => cases hlast
    | broke u s => exact absurd List.mem_cons_self (hbroke u)
    | settled u result draw s =>
      obtain ⟨reason, rfl⟩ := hretry u result (List.mem_cons_of_mem _ List.mem_cons_self)
      by_cases hu : u.attempts < config.maxRetries
      · rw [settlement_again draw hu] at hlast
        cases hlast
      · exact ⟨u, reason, s, l, Nat.le_of_not_lt hu, by rw [settlement_exhausted draw (Nat.le_of_not_lt hu)]⟩

/-- **A task is tried as often as its budget allows.** Whatever handlers return, a consumer keeps to what it promises
of each task; and a task that is seen to comes to its end, which is after the last try that the budget allows if its
handler always asks for another attempt. -/
theorem retry_budget {σ : Nat → Shift} (hm : config.maxRetries < 2 ^ 32) (h : Shift.Course config σ) {n : Nat}
    (ht : t ∈ (σ n).came) :
    (∀ k, n ≤ k → WithinBudget config t (σ k)) ∧
    (Shift.Attended σ t → ∃ k, n ≤ k ∧ Ended ((σ k).story t.id) ∧
      ((∀ u result, ⟨u, .returned result⟩ ∈ (σ k).story t.id → ∃ reason, result = .error (.retry reason)) →
        (∀ u, ⟨u, .broke⟩ ∉ (σ k).story t.id) →
        (tries ((σ k).story t.id)).length = config.maxRetries - t.attempts + 1 ∧
        ∃ reason, (σ k).Dead (t.withAttempts (max t.attempts config.maxRetries)) ("retries exhausted: " ++ reason))) := by
  have hwithin (k : Nat) (hk : n ≤ k) : WithinBudget config t (σ k) := (h.kept k).withinBudget hm (h.came ht hk)
  refine ⟨hwithin, fun hseen => ?_⟩
  obtain ⟨k, hk, hended⟩ := h.ends hm hseen ht
  refine ⟨k, hk, hended, fun hretry hbroke => ?_⟩
  obtain ⟨u, reason, s, earlier, hu, hl⟩ := ((h.kept k).told t (h.came ht hk)).1.ends_exhausted hended hretry hbroke
  obtain ⟨htask, htries, hdead⟩ := (hwithin k hk).exhausted [_] u reason earlier hl hu
  rcases hdead with hnil | ⟨_, -, hdead⟩
  · cases hnil
  · exact ⟨htries, reason, htask ▸ hdead⟩

end

/-! ## A task that is tried twice -/

/-- The states of a consumer at work. -/
inductive Shift.Reached (config : ConsumerConfig) : Shift → Prop
  | begins {w : Shift} (h : Begins config w) : Reached config w
  | step {w w' : Shift} (h : Reached config w) (hstep : Step w w') : Reached config w'

/-- Each state is one after which nothing happens any more, in some course. -/
theorem Shift.Reached.exists_course {config : ConsumerConfig} {w : Shift} (h : Reached config w) :
    ∃ σ n, Course config σ ∧ ∀ k, n ≤ k → σ k = w := by
  induction h with
  | @begins w h => exact ⟨fun _ => w, 0, ⟨h, fun _ => .inl rfl⟩, fun _ _ => rfl⟩
  | @step w w' _ hstep ih =>
    obtain ⟨σ, n, hσ, hlast⟩ := ih
    refine ⟨fun k => if k ≤ n then σ k else w', n + 1, ⟨?_, fun k => ?_⟩, fun k hk => if_neg (by omega)⟩
    · rw [if_pos (Nat.zero_le n)]
      exact hσ.begins
    · rcases Nat.lt_trichotomy k n with hk | rfl | hk
      · rw [if_pos (Nat.succ_le_of_lt hk), if_pos (Nat.le_of_lt hk)]
        exact hσ.goes k
      · rw [if_neg (by omega), if_pos (Nat.le_refl k), hlast k (Nat.le_refl k)]
        exact .inr hstep
      · rw [if_neg (by omega), if_neg (by omega)]
        exact .inl rfl

/-- A task that came to its end was seen to. -/
theorem Shift.attended_of_ended {σ : Nat → Shift} {w : Shift} {t : Task} {n : Nat} (hlast : ∀ k, n ≤ k → σ k = w)
    (hended : Ended (w.story t.id)) : Attended σ t := by
  obtain ⟨e, he, hnote⟩ := hended
  have last {m : Nat} {P : Entry → Prop} (hall : ∀ k, m ≤ k → ∃ e ∈ ((σ k).story t.id).head?, P e) : P e := by
    obtain ⟨e', he', hP⟩ := hall (max m n) (Nat.le_max_left _ _)
    rw [hlast _ (Nat.le_max_right _ _)] at he'
    rwa [Option.mem_unique he he']
  refine ⟨fun m hall => ?_, fun m hall => ?_, fun m hall => ?_⟩
  · have hawaits := hall (max m n) (Nat.le_max_left _ _)
    rw [hlast _ (Nat.le_max_right _ _)] at hawaits
    obtain ⟨wait, s, h⟩ := hawaits e he
    rw [h] at hnote
    cases hnote
  · obtain ⟨s, h⟩ := last hall
    rw [h] at hnote
    cases hnote
  · obtain ⟨result, h⟩ := last hall
    rw [h] at hnote
    cases hnote

/-- A consumer that tries a task once more. -/
def patient : ConsumerConfig := { maxRetries := 1 }

/-- Numbers that are drawn at the lower bound. -/
def lowest (a _ : Number.Binary64) : Number.Binary64 := a

theorem exists_tried_twice {wait : Time} (hwait : patient.backoff.delay lowest 1 = wait) :
    ∃ w, Shift.Reached patient w ∧ sampleTask ∈ w.came ∧ Ended (w.story sampleTask.id) ∧
      ∀ e ∈ w.log, (∃ s, e.note = .handed s) ∨ e.note = .returned (.error (.retry "busy")) ∨
        ∃ st s, e.note = .settled st s := by
  have run : Shift.Reached patient _ := .begins (.intro .start (fun _ h => by cases h) (by decide) 0)
  replace run := run.step (.enqueue (t := sampleTask) (by simp))
  replace run := run.step (.calm lowest (e := .place) rfl trivial rfl)
  replace run := run.step (.dequeue lowest rfl rfl)
  replace run := run.step (.handle lowest (j := ⟨0, ⟨sampleTask, sampleTask.id.text⟩, .handling⟩)
    (.error (.retry "busy")) rfl rfl rfl)
  replace run := run.step (.settle lowest (j := ⟨0, ⟨sampleTask, sampleTask.id.text⟩,
    .settling (.retry (patient.backoff.delay lowest 1))⟩) .epoch rfl rfl rfl rfl)
  rw [hwait] at run
  -- the wait is over
  replace run := run.step (.wait (Nat.zero_le wait))
  have hdue : (⟨[], [(0 + wait, sampleTask.next)], [], []⟩ : MemoryQueue).dequeue wait =
      (⟨[], [], [sampleTask.next], []⟩, some ⟨sampleTask.next, sampleTask.id.text⟩) := by
    simp [MemoryQueue.dequeue, MemoryQueue.promote, MemoryQueue.release, Task.next]
  replace run := run.step (.calm lowest (e := .place) rfl trivial rfl)
  replace run := run.step (.dequeue lowest rfl
    (congrArg (fun x => Consumer.step lowest _ (.dequeued (.ofAnswer (.ok x.2)))) hdue))
  replace run := run.step (.handle lowest (j := ⟨1, ⟨sampleTask.next, sampleTask.id.text⟩, .handling⟩)
    (.error (.retry "busy")) rfl rfl rfl)
  replace run := run.step (.settle lowest (j := ⟨1, ⟨sampleTask.next, sampleTask.id.text⟩,
    .settling (.deadLetter "retries exhausted: busy")⟩) .epoch rfl rfl rfl rfl)
  refine ⟨_, run, List.mem_cons_self, ⟨_, rfl, rfl⟩, fun e he => ?_⟩
  have handed {now : Time} {d : Option Delivery} (he : e ∈ d.toList.map (.handed now)) : ∃ s, e.note = .handed s := by
    obtain ⟨d, -, rfl⟩ := List.mem_map.1 he
    exact ⟨now, rfl⟩
  rcases List.mem_cons.1 he with rfl | he
  · exact .inr (.inr ⟨_, _, rfl⟩)
  rcases List.mem_cons.1 he with rfl | he
  · exact .inr (.inl rfl)
  rcases List.mem_append.1 he with he | he
  · exact .inl (handed he)
  rcases List.mem_cons.1 he with rfl | he
  · exact .inr (.inr ⟨_, _, rfl⟩)
  rcases List.mem_cons.1 he with rfl | he
  · exact .inr (.inl rfl)
  rcases List.mem_append.1 he with he | he
  · exact .inl (handed he)
  · cases he

theorem sample_budget : ∃ σ n k, patient.maxRetries < 2 ^ 32 ∧ Shift.Course patient σ ∧ sampleTask ∈ (σ n).came ∧
    Shift.Attended σ sampleTask ∧ WithinBudget patient sampleTask (σ k) ∧ (tries ((σ k).story sampleTask.id)).length = 2 ∧
    ∃ reason, (σ k).Dead (sampleTask.withAttempts 1) ("retries exhausted: " ++ reason) := by
  obtain ⟨w, hw, hcame, hended, hlog⟩ := exists_tried_twice rfl
  obtain ⟨σ, n, hσ, hlast⟩ := hw.exists_course
  have hn : σ n = w := hlast n (Nat.le_refl n)
  have hm : patient.maxRetries < 2 ^ 32 := by decide
  have hseen := Shift.attended_of_ended hlast hended
  obtain ⟨hwithin, hends⟩ := retry_budget hm hσ (hn ▸ hcame)
  obtain ⟨k, hk, -, hexhausted⟩ := hends hseen
  have hstory {e : Entry} (he : e ∈ (σ k).story sampleTask.id) : e ∈ w.log := (List.mem_filter.1 (hlast k hk ▸ he)).1
  have hretry (u : Task) (result : Except TaskFailure Unit) (hu : ⟨u, .returned result⟩ ∈ (σ k).story sampleTask.id) :
      ∃ reason, result = .error (.retry reason) := by
    rcases hlog _ (hstory hu) with ⟨_, h⟩ | h | ⟨_, _, h⟩ <;> cases h
    exact ⟨_, rfl⟩
  have hbroke (u : Task) : (⟨u, .broke⟩ : Entry) ∉ (σ k).story sampleTask.id := fun hu => by
    rcases hlog _ (hstory hu) with ⟨_, h⟩ | h | ⟨_, _, h⟩ <;> cases h
  obtain ⟨htries, hdead⟩ := hexhausted hretry hbroke
  exact ⟨σ, n, k, hm, hσ, hn ▸ hcame, hseen, hwithin k hk, htries, hdead⟩

end Courier.Consumption
