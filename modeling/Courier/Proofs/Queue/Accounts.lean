import Courier.Proofs.Queue.Tally
/-
What a consumer can be held to, whatever the queue answers, whatever its handlers do and
whenever it is told to stop. It never has more deliveries at work than it has places. A
delivery is given to the handler once at most, and settled once at most, after the handler
has returned. When it has stopped, each delivery came to an end or was aborted.

The report counts each delivery once if no thread is late. One whose end the consumer did not
see before the time was over is counted as aborted, and came to its end.
-/

namespace Courier.Crew

open Number (Binary64)
open Procedure

/-- What a thread did with its delivery. -/
structure Thread.Proper (config : ConsumerConfig) (t : Thread) : Prop where
  /-- The handler is given the task of the delivery, and no other. -/
  own : ∀ task, .handle task ∈ t.calls → task = t.delivery.task
  handledOnce : t.calls.countP (·.isHandle) ≤ 1
  settledOnce : t.calls.countP (·.isSettle) ≤ 1
  /-- The delivery is settled after the handler has returned, and as its result wants it. -/
  settled : ∀ c, .settle c ∈ t.calls → ∃ r, ⟨.handle t.delivery.task, some r⟩ ∈ t.log ∧
    c = (config.settlement t.draw t.delivery.task r).call t.delivery

/-- How a thread came to its end. -/
inductive Thread.Over (config : ConsumerConfig) (t : Thread) : Prop
  /-- The queue was asked to settle the delivery, as the result of the handler wants it, and answered. -/
  | settled (r : Except TaskFailure Unit) (x : ((config.settlement t.draw t.delivery.task r).call t.delivery).Answer)
    (handled : ⟨.handle t.delivery.task, some r⟩ ∈ t.log)
    (answered : ⟨.settle ((config.settlement t.draw t.delivery.task r).call t.delivery), some x⟩ ∈ t.log)
  /-- It broke down where it waited for an answer. -/
  | broken (q : ProcessAsk) (waits : t.open? = some q)

/-- What a consumer can be held to at any time. -/
structure Accounted (config : ConsumerConfig) (s : Crew) : Prop where
  /-- There is a thread for each delivery that was got. -/
  started : s.consumer.report.started = s.threads.length
  working : s.consumer.jobs.length ≤ config.concurrency
  handling : (s.alive.filter s.handles).length ≤ config.concurrency
  proper : ∀ (n : Nat) (t : Thread), s.threads[n]? = some t → t.Proper config
  /-- A delivery that is not at work any more, and was not aborted, was given to the handler. -/
  handled : ∀ (n : Nat) (t : Thread), s.threads[n]? = some t → n ∉ s.alive → n ∉ s.aborted → t.calls.countP (·.isHandle) = 1
  ends : ∀ (n : Nat) (t : Thread), s.threads[n]? = some t → n ∈ s.ended → t.Over config
  rested : ∀ (n : Nat) (t : Thread), s.threads[n]? = some t → n ∈ s.aborted → t.Rests
  /-- Each delivery is at work, came to its end or was aborted, and only one of these. -/
  apart : (s.alive ++ s.ended ++ s.aborted).Perm (List.range s.consumer.report.started)
  /-- When the consumer has stopped, nothing is left. -/
  left : s.consumer.phase = .finished → s.consumer.left = []
  /-- The report counts the threads that were aborted, and those that were late. -/
  aborted : s.consumer.phase = .finished → s.consumer.report.aborted = s.aborted.length + s.late.length
  /-- So each delivery is counted once, as ended or as aborted, if and only if none was late. -/
  once : s.consumer.phase = .finished →
    (s.consumer.report.started = s.ended.length + s.consumer.report.aborted ↔ s.late = [])

section

variable {config : ConsumerConfig} {s : Crew} {n : Nat} {t : Thread}

/-- What is asked of one delivery, if its handler returns a result. -/
def questions (config : ConsumerConfig) (t : Thread) (r : Except TaskFailure Unit) : List ProcessAsk :=
  let settlement := config.settlement t.draw t.delivery.task r
  [.handle t.delivery.task, .count (.queueAction settlement.action), .settle (settlement.call t.delivery)]

/-- The questions are asked in their order; those after the first one have the result of the handler. -/
theorem calls_of_stands (h : Stands config t.draw t.delivery t.log t.rest) :
    t.calls <+: [.handle t.delivery.task] ∨
      ∃ r, ⟨.handle t.delivery.task, some r⟩ ∈ t.log ∧ t.calls <+: questions config t r := by
  obtain ⟨d, draw, rest, log, asking⟩ := t
  change Stands config draw d log rest at h
  cases h with
  | fresh =>
    refine .inl ?_
    cases asking
    · exact List.nil_prefix
    · exact List.prefix_rfl
  | handled r =>
    refine .inr ⟨r, List.mem_cons_self, ?_⟩
    cases asking
    · exact ⟨_, rfl⟩
    · exact ⟨_, rfl⟩
  | counted r =>
    refine .inr ⟨r, List.mem_cons_self, ?_⟩
    cases asking
    · exact ⟨_, rfl⟩
    · exact ⟨[], rfl⟩
  | settled r x => exact .inr ⟨r, List.mem_cons_self, [], rfl⟩

theorem proper_of_stands (h : Stands config t.draw t.delivery t.log t.rest) : t.Proper config := by
  rcases calls_of_stands h with hfirst | ⟨r, hr, hcalls⟩
  · constructor
    case own =>
      intro task htask
      have hmem := hfirst.subset htask
      simpa using hmem
    case handledOnce => exact hfirst.sublist.countP_le
    case settledOnce => exact Nat.le_trans hfirst.sublist.countP_le (by simp [ProcessAsk.isSettle])
    case settled =>
      intro c hc
      have hmem := hfirst.subset hc
      simp at hmem
  · constructor
    case own =>
      intro task htask
      have hmem := hcalls.subset htask
      simpa [questions] using hmem
    case handledOnce => exact hcalls.sublist.countP_le
    case settledOnce => exact hcalls.sublist.countP_le
    case settled =>
      intro c hc
      have hmem := hcalls.subset hc
      exact ⟨r, hr, by simpa [questions] using hmem⟩

/-- A thread that came to its end has given its task to the handler. -/
theorem handled_of_halted (h : Stands config t.draw t.delivery t.log t.rest)
    (hhalted : t.rest = .result () ∨ ∃ q, t.open? = some q) : t.calls.countP (·.isHandle) = 1 := by
  have hasked : t.calls ≠ [] := by
    rcases hhalted with hrest | ⟨q, hq⟩
    · rw [hrest] at h
      generalize hlog : t.log = l at h
      cases h
      simp [Thread.calls, hlog]
    · simp [Thread.calls, hq]
  have hfirst : ∃ later, t.calls <+: .handle t.delivery.task :: later := by
    rcases calls_of_stands h with hcalls | ⟨r, -, hcalls⟩
    · exact ⟨[], hcalls⟩
    · exact ⟨_, hcalls⟩
  obtain ⟨later, hcalls⟩ := hfirst
  obtain ⟨q, l, hql⟩ := List.exists_cons_of_ne_nil hasked
  rw [hql, List.cons_prefix_cons] at hcalls
  have hmem : ProcessAsk.handle t.delivery.task ∈ t.calls := by
    rw [hql, hcalls.1]
    exact List.mem_cons_self
  have hpositive : 0 < t.calls.countP (·.isHandle) := List.countP_pos_iff.2 ⟨_, hmem, rfl⟩
  have honce := (proper_of_stands h).handledOnce
  omega

theorem over_of_stands (h : Stands config t.draw t.delivery t.log t.rest)
    (hhalted : t.rest = .result () ∨ ∃ q, t.open? = some q) : t.Over config := by
  rcases hhalted with hrest | ⟨q, hq⟩
  · rw [hrest] at h
    generalize hlog : t.log = l at h
    cases h with
    | settled r x => exact .settled r x (by simp [hlog]) (by simp [hlog])
  · exact .broken q hq

theorem Kept.accounts (h : Kept config s) (htallied : Tallied s) : Accounted config s where
  started := h.started
  working := by
    have hplaces := h.places
    simp only [alive, List.length_map] at hplaces
    exact Nat.le_trans (Nat.le_add_right _ _) hplaces
  handling := by
    have hfilter := List.length_filter_le s.handles s.alive
    exact Nat.le_trans hfilter (Nat.le_trans (Nat.le_add_right _ _) h.places)
  proper n t thread := proper_of_stands (stands_of_comes (h.courses n t thread))
  handled n t thread idle kept := by
    have hended : n ∈ s.ended := (h.gone thread idle).resolve_right kept
    exact handled_of_halted (stands_of_comes (h.courses n t thread)) (h.halted n t thread hended)
  ends n t thread hended := over_of_stands (stands_of_comes (h.courses n t thread)) (h.halted n t thread hended)
  rested := h.rested
  apart := h.started ▸ h.numbers
  left := h.emptied
  aborted hfinished := htallied.aborted h hfinished
  once hfinished := by
    have haborted := htallied.aborted h hfinished
    have hlength := h.numbers.length_eq
    simp only [h.idle hfinished, List.nil_append, List.length_append, List.length_range] at hlength
    rw [h.started, haborted, ← List.length_eq_zero_iff]
    omega

/-- **What a consumer can be held to**, in every state that it comes to. -/
theorem accounted (h : Reachable config s) : Accounted config s := h.kept.accounts h.tallied

end

/-! ## Two deliveries, one of them aborted -/

def pair : ConsumerConfig := { concurrency := 2 }

/-- The first delivery is acknowledged; the handler of the second one is at work when the time is over. -/
theorem pair_reachable : ∃ s, Reachable pair s ∧ s.consumer.phase = .finished ∧
    s.consumer.report = { started := 2, aborted := 1 } ∧ s.ended = [0] ∧ s.aborted = [1] := by
  let draw : Binary64 → Binary64 → Binary64 := fun a _ => a
  have run : Reachable pair _ := .start
  replace run := run.step (.loop (e := .recovered) draw trivial rfl)
  replace run := run.step (.loop (e := .place) draw trivial rfl)
  replace run := run.step (.take (d := sampleDelivery 0) draw rfl)
  replace run := run.step (.loop (e := .place) draw trivial rfl)
  replace run := run.step (.take (d := sampleDelivery 1) draw rfl)
  replace run := run.step (.ask (n := 0) (by decide) rfl rfl rfl)
  replace run := run.step (.ask (n := 1) (by decide) rfl rfl rfl)
  replace run := run.step (.handled (n := 0) (.ok ()) rfl rfl rfl rfl)
  replace run := run.step (.ask (n := 0) (by decide) rfl rfl rfl)
  replace run := run.step (.answer (n := 0) (q := .count (.queueAction "ack")) () (by decide) rfl rfl rfl rfl)
  replace run := run.step (.ask (n := 0) (by decide) rfl rfl rfl)
  replace run := run.step (.answer (n := 0) (q := .settle (.ack (sampleDelivery 0)))
    (.ok () : Except QueueError Unit) (by decide) rfl rfl rfl rfl)
  replace run := run.step (.finish (n := 0) draw rfl rfl rfl)
  replace run := run.step (.loop (e := .stop) draw trivial rfl)
  replace run := run.step (.loop (e := .joined 0) draw trivial rfl)
  replace run := run.step (.loop (e := .graceOver) draw trivial rfl)
  replace run := run.step (.abort (n := 1) draw rfl (.inr ⟨.handle (sampleDelivery 1).task, rfl, rfl⟩) rfl)
  replace run := run.step (.loop (e := .joined 1) draw trivial rfl)
  replace run := run.step (.loop (e := .drained) draw trivial rfl)
  exact ⟨_, run, rfl, rfl, rfl, rfl⟩

theorem pair_accounted : ∃ s, Reachable pair s ∧ s.consumer.report = { started := 2, aborted := 1 } ∧ Accounted pair s := by
  obtain ⟨s, run, -, hreport, -⟩ := pair_reachable
  exact ⟨s, run, hreport, accounted run⟩

/-! ## A late delivery -/

/-- A delivery is acknowledged while the consumer leaves, just before the time is over: it came to its end, and is
counted as aborted. -/
theorem late_reachable : ∃ s, Reachable {} s ∧ s.consumer.phase = .finished ∧
    s.consumer.report = { started := 1, aborted := 1 } ∧ s.ended = [0] := by
  let draw : Binary64 → Binary64 → Binary64 := fun a _ => a
  have run : Reachable {} _ := .start
  replace run := run.step (.loop (e := .recovered) draw trivial rfl)
  replace run := run.step (.loop (e := .place) draw trivial rfl)
  replace run := run.step (.take (d := sampleDelivery 0) draw rfl)
  replace run := run.step (.ask (n := 0) (by decide) rfl rfl rfl)
  replace run := run.step (.handled (n := 0) (.ok ()) rfl rfl rfl rfl)
  replace run := run.step (.ask (n := 0) (by decide) rfl rfl rfl)
  replace run := run.step (.answer (n := 0) (q := .count (.queueAction "ack")) () (by decide) rfl rfl rfl rfl)
  replace run := run.step (.ask (n := 0) (by decide) rfl rfl rfl)
  replace run := run.step (.answer (n := 0) (q := .settle (.ack (sampleDelivery 0)))
    (.ok () : Except QueueError Unit) (by decide) rfl rfl rfl rfl)
  replace run := run.step (.loop (e := .stop) draw trivial rfl)
  replace run := run.step (.finish (n := 0) draw rfl rfl rfl)
  replace run := run.step (.loop (e := .graceOver) draw trivial rfl)
  replace run := run.step (.loop (e := .joined 0) draw trivial rfl)
  replace run := run.step (.loop (e := .drained) draw trivial rfl)
  exact ⟨_, run, rfl, rfl, rfl⟩

theorem not_always_counted_once : ¬ ∀ (config : ConsumerConfig) (s : Crew), Reachable config s →
    s.consumer.phase = .finished → s.consumer.report.started = s.ended.length + s.consumer.report.aborted := by
  intro hall
  obtain ⟨s, run, hfinished, hreport, hended⟩ := late_reachable
  have honce := hall {} s run hfinished
  rw [hreport, hended] at honce
  cases honce

end Courier.Crew
