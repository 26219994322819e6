import Courier.Queue.Consumer
/-
How long a consumer waits when the queue fails. The wait grows with the failures since the last
task. An empty answer is a success of the queue as well, but starts nothing over: the failures
before it still count after it, so the wait is that of the failures in a row only where no empty
answer came in between. The count has 32 bits; after its last value it starts over.
-/

namespace Courier.Consumer

open Number (Binary64)

/-- What has become of a consumer, and what has happened to it, the latest first. -/
inductive Run (config : ConsumerConfig) : List Event → Consumer → Prop
  | start : Run config [] { config }
  | step {es : List Event} {c c' : Consumer} {e : Event} (draw : Binary64 → Binary64 → Binary64) (h : Run config es c)
    (next : c.step draw e = some c') : Run config (e :: es) c'

/-- What the queue said when it was asked for a task. -/
def answers (es : List Event) : List Dequeued :=
  es.filterMap fun
    | .dequeued answer => some answer
    | _ => none

/-- A draw of which no wait gets longer or shorter. -/
def middle (_ _ : Binary64) : Binary64 := .zero false

/-! ## Failures -/

/-- How many failures in a row there are. -/
def streak : List Dequeued → Nat
  | .failed :: l => streak l + 1
  | .task _ :: _ | .empty :: _ | [] => 0

/-- How many failures there are since the last task. -/
def unrewarded : List Dequeued → Nat
  | .failed :: l => unrewarded l + 1
  | .empty :: l => unrewarded l
  | .task _ :: _ | [] => 0

/-- Whether an empty answer came after a failure, and no task since that failure. -/
inductive Interrupted : List Dequeued → Prop
  | empty {l : List Dequeued} (h : 0 < unrewarded l) : Interrupted (.empty :: l)
  | failed {l : List Dequeued} (h : Interrupted l) : Interrupted (.failed :: l)

theorem unrewarded_eq_streak_iff (l : List Dequeued) : unrewarded l = streak l ↔ ¬ Interrupted l := by
  induction l with
  | nil => exact ⟨fun _ h => (nomatch h), fun _ => rfl⟩
  | cons answer l ih =>
    cases answer with
    | task d => exact ⟨fun _ h => (nomatch h), fun _ => rfl⟩
    | empty =>
      rw [unrewarded, streak]
      refine ⟨fun h hinterrupted => ?_, fun h => Nat.eq_zero_of_not_pos fun hpos => h (.empty hpos)⟩
      cases hinterrupted with
      | empty hpos => omega
    | failed =>
      rw [unrewarded, streak, Nat.add_right_cancel_iff, ih]
      refine not_congr ⟨.failed, fun h => ?_⟩
      cases h with
      | failed h => exact h

/-! ## The count -/

/-- Whether a consumer counts the failures since the last task, as far as its count goes. -/
structure Paced (given : ConsumerConfig) (es : List Event) (c : Consumer) : Prop where
  config : c.config = given
  backoff : c.backoff = ⟨given.backoff, unrewarded (answers es) % 2 ^ 32⟩

section

variable {config : ConsumerConfig} {es : List Event} {c c' : Consumer} {e : Event} {draw : Binary64 → Binary64 → Binary64}

theorem step_failed (asking : c.phase = .dequeuing) :
    c.step draw (.dequeued .failed) =
      some { c with phase := .waiting (c.backoff.next draw).2, backoff := (c.backoff.next draw).1 } := by
  simp only [step, asking, ne_eq, not_true_eq_false, if_false]

theorem Paced.step (h : Paced config es c) (next : c.step draw e = some c') : Paced config (e :: es) c' := by
  obtain ⟨hconfig, hbackoff⟩ := h
  cases e with
  | dequeued answer =>
    simp only [Consumer.step] at next
    split at next
    · cases next
    · cases answer with
      | task d =>
        cases next
        exact ⟨hconfig, by rw [hbackoff]; rfl⟩
      | empty =>
        cases next
        exact ⟨hconfig, hbackoff⟩
      | failed =>
        cases next
        refine ⟨hconfig, ?_⟩
        rw [hbackoff, Backoff.Counter.next_mod]
        rfl
  | recovered | place | cancelled _ | joined _ | drained | graceOver =>
    simp only [Consumer.step] at next
    split at next <;> cases next
    exact ⟨hconfig, hbackoff⟩
  | stop | waited =>
    simp only [Consumer.step] at next
    split at next <;> cases next <;> exact ⟨hconfig, hbackoff⟩
  | handled serial result | broken serial | settled serial =>
    simp only [Consumer.step] at next
    split at next <;> cases next
    exact ⟨hconfig, hbackoff⟩

theorem Run.paced (h : Run config es c) : Paced config es c := by
  induction h with
  | start => exact ⟨rfl, rfl⟩
  | step draw _ next ih => exact ih.step next

/-- A consumer that is ready and has nothing to do asks the queue. -/
theorem Run.place (h : Run config es c) (places : 0 < config.concurrency) (ready : c.phase = .ready) (idle : c.jobs = []) :
    Run config (.place :: es) { c with phase := .dequeuing } := by
  refine .step middle h (if_pos ⟨ready, ?_⟩)
  rw [hasPlace, idle, h.paced.config]
  exact decide_eq_true places

/-- Whatever the queue has answered so far, it may be asked again. -/
theorem exists_run (config : ConsumerConfig) (places : 0 < config.concurrency) (l : List Dequeued) :
    ∃ es c, Run config es c ∧ answers es = l ∧ c.phase = .dequeuing ∧ c.jobs = [] := by
  induction l with
  | nil =>
    have hready : Run config [.recovered] { config, phase := .ready } := .step middle .start rfl
    exact ⟨_, _, hready.place places rfl rfl, rfl, rfl, rfl⟩
  | cons answer l ih =>
    obtain ⟨es, c, hrun, rfl, hasking, hidle⟩ := ih
    cases answer with
    | task d =>
      -- the task is taken, its handler breaks down, and its place is free again
      have htaken : c.step middle (.dequeued (.task d)) = some
          { c with
            phase := .ready
            jobs := [⟨c.report.started, d, .handling⟩]
            unjoined := []
            backoff := c.backoff.reset
            report := { c.report with started := c.report.started + 1 } } := by
        simp [Consumer.step, hasking, hidle]
      have hbroken : Run config (.broken c.report.started :: .dequeued (.task d) :: es)
          { c with
            phase := .ready
            jobs := []
            unjoined := [c.report.started]
            backoff := c.backoff.reset
            report := { c.report with started := c.report.started + 1 } } := by
        refine .step middle (.step _ hrun htaken) ?_
        simp [Consumer.step, job?, dropJob]
      exact ⟨_, _, hbroken.place places rfl rfl, rfl, rfl, rfl⟩
    | empty =>
      have hwaiting : Run config (.dequeued .empty :: es) { c with phase := .waiting c.config.poll } :=
        .step middle hrun (by simp [Consumer.step, hasking])
      have hready : Run config (.waited :: .dequeued .empty :: es) { c with phase := .ready, unjoined := [] } :=
        .step middle hwaiting rfl
      exact ⟨_, _, hready.place places rfl hidle, rfl, rfl, hidle⟩
    | failed =>
      have hwaiting := hrun.step middle (step_failed hasking)
      have hready := hwaiting.step (e := .waited) middle rfl
      exact ⟨_, _, hready.place places rfl hidle, rfl, rfl, hidle⟩

/-- When a consumer fails to get a task, it waits as long as its failures since the last task tell. -/
theorem Run.failed (h : Run config es c) (asking : c.phase = .dequeuing) (draw : Binary64 → Binary64 → Binary64) :
    ∃ c', c.step draw (.dequeued .failed) = some c' ∧
      c'.phase = .waiting (config.backoff.delay draw (unrewarded (.failed :: answers es) % 2 ^ 32)) := by
  refine ⟨_, step_failed asking, ?_⟩
  rw [h.paced.backoff, Backoff.Counter.next_mod]
  rfl

/-- **How long a consumer waits when the queue fails**: as long as the failures since the last task
tell, this one with them, counted with 32 bits. These are the failures in a row unless an empty
answer came in between. -/
theorem failed_waits (h : Run config es c) (asking : c.phase = .dequeuing) (draw : Binary64 → Binary64 → Binary64) :
    ∃ c', c.step draw (.dequeued .failed) = some c' ∧
      c'.phase = .waiting (config.backoff.delay draw (unrewarded (.failed :: answers es) % 2 ^ 32)) ∧
      (unrewarded (.failed :: answers es) = streak (.failed :: answers es) ↔ ¬ Interrupted (answers es)) := by
  obtain ⟨c', hnext, hwait⟩ := h.failed asking draw
  exact ⟨c', hnext, hwait, Nat.add_right_cancel_iff.trans (unrewarded_eq_streak_iff _)⟩

end

/-- A consumer that does not spread its waits. -/
def steady : ConsumerConfig := { backoff := { jitter := .zero false } }

theorem steady_delay (draw : Binary64 → Binary64 → Binary64) (attempt : Nat) :
    steady.backoff.delay draw attempt = Backoff.toMillis (steady.backoff.base attempt) := by
  have hsteady : steady.backoff.isSpread (steady.backoff.base attempt) = false := by
    rw [Backoff.isSpread, Bool.and_eq_false_imp]
    intro h
    exact absurd h (by decide)
  simp [Backoff.delay, hsteady]

/-- After two failures in a row, a third one. -/
theorem steady_failed_waits :
    ∃ (es : List Event) (c c' : Consumer), Run steady es c ∧ c.phase = .dequeuing ∧ answers es = [.failed, .failed] ∧
      c.step middle (.dequeued .failed) = some c' ∧ c'.phase = .waiting 4000 := by
  obtain ⟨es, c, hrun, hanswers, hasking, -⟩ := exists_run steady (by decide) [.failed, .failed]
  obtain ⟨c', hnext, hwait, -⟩ := failed_waits hrun hasking middle
  refine ⟨es, c, c', hrun, hasking, hanswers, hnext, ?_⟩
  rw [hwait, hanswers, steady_delay]
  decide +kernel

/-- A failure right after an empty answer waits longer than a first one does, if there was one before. -/
theorem not_every_failure_waits_streak :
    ¬ ∀ (config : ConsumerConfig) (es : List Event) (c c' : Consumer) (draw : Binary64 → Binary64 → Binary64),
      Run config es c → c.step draw (.dequeued .failed) = some c' →
      ∃ draw', c'.phase = .waiting (config.backoff.delay draw' (streak (.failed :: answers es))) := by
  intro h
  obtain ⟨es, c, hrun, hanswers, hasking, -⟩ := exists_run steady (by decide) [.empty, .failed]
  obtain ⟨c', hnext, hwait⟩ := hrun.failed hasking middle
  obtain ⟨draw, hclaimed⟩ := h steady es c c' _ hrun hnext
  rw [hwait, hanswers, steady_delay, steady_delay, Phase.waiting.injEq] at hclaimed
  exact absurd hclaimed (by decide +kernel)

end Courier.Consumer
