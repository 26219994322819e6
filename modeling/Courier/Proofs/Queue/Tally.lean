import Mathlib.Data.List.Nodup
import Courier.Proofs.Queue.Crew
/-
Whom a consumer counts as left when the time for stopping is over: all threads whose end it has not
seen. It aborts them then, but for the late ones: those that are over already, and those that come
to their end before they are aborted. The report counts the late ones as aborted too.
-/

namespace Courier.Crew

open Number (Binary64)

/-- The threads that were counted as left, and came to their end all the same. -/
def late (s : Crew) : List Nat := s.counted.filter (· ∈ s.ended)

/-- What the counts have to do with the threads. -/
structure Tallied (s : Crew) : Prop where
  /-- What the consumer has not seen to be over is over, each once. -/
  unseen : s.consumer.unjoined ⊆ s.ended ++ s.aborted
  distinct : s.consumer.unjoined.Nodup
  reported : s.consumer.report.aborted = s.counted.length
  early : s.consumer.phase ≠ .aborting → s.consumer.phase ≠ .finished → s.counted = [] ∧ s.aborted = []
  nodup : s.counted.Nodup
  known : s.counted ⊆ s.alive ++ s.ended ++ s.aborted
  covered : s.aborted ⊆ s.counted
  left : s.consumer.phase = .aborting → s.alive ⊆ s.counted

section

variable {config : ConsumerConfig} {s s' : Crew} {c c' : Consumer} {n : Nat} {t : Thread}
  {draw : Binary64 → Binary64 → Binary64}

theorem Tallied.start : Tallied { consumer := { config } } where
  unseen := List.nil_subset _
  distinct := .nil
  reported := rfl
  early _ _ := ⟨rfl, rfl⟩
  nodup := .nil
  known := List.nil_subset _
  covered := List.nil_subset _
  left := nofun

namespace Tallied

/-- Something happens by which nothing is counted and no thread is over. -/
theorem goesOn (h : Tallied s) (threads : List Thread) (hserials : c.jobs.map (·.serial) = s.alive)
    (hunjoined : c.unjoined.Sublist s.consumer.unjoined) (hreport : c.report.aborted = s.consumer.report.aborted)
    (hback : c.phase = .aborting → s.consumer.phase = .aborting)
    (hearly : c.phase ≠ .aborting → c.phase ≠ .finished → s.consumer.phase ≠ .aborting ∧ s.consumer.phase ≠ .finished) :
    Tallied { s with consumer := c, threads } where
  unseen := List.Subset.trans hunjoined.subset h.unseen
  distinct := h.distinct.sublist hunjoined
  reported := hreport.trans h.reported
  early haborting hfinished := h.early (hearly haborting hfinished).1 (hearly haborting hfinished).2
  nodup := h.nodup
  known := by
    simp only [alive, hserials]
    exact h.known
  covered := h.covered
  left hphase := by
    simp only [alive, hserials]
    exact h.left (hback hphase)

/-- The time is over: what is left is counted, before anything was aborted. -/
theorem counts (h : Tallied s) (hkept : Kept config s) (hjobs : c.jobs = s.consumer.jobs)
    (hunjoined : c.unjoined.Sublist s.consumer.unjoined) (hdraining : s.consumer.phase = .draining)
    (haborting : c.phase = .aborting) (hreport : c.report.aborted = s.consumer.left.length) :
    Tallied { s with consumer := c, counted := s.consumer.left } := by
  obtain ⟨-, hnone⟩ := h.early (by simp [hdraining]) (by simp [hdraining])
  have halive : c.jobs.map (·.serial) = s.alive := by rw [hjobs, alive]
  constructor
  case unseen => exact List.Subset.trans hunjoined.subset h.unseen
  case distinct => exact h.distinct.sublist hunjoined
  case reported => exact hreport
  case early => exact fun hphase => absurd haborting hphase
  case nodup =>
    exact List.nodup_append.2 ⟨hkept.nodup_alive, h.distinct, fun a ha b hb hab =>
      hkept.not_over ha (hab ▸ h.unseen hb)⟩
  case known =>
    simp only [alive, halive]
    rw [Consumer.left, List.append_assoc]
    exact List.append_subset.2 ⟨List.subset_append_left _ _, List.subset_append_of_subset_right _ h.unseen⟩
  case covered =>
    simp only [hnone]
    exact List.nil_subset _
  case left =>
    intro _
    simp only [alive, halive]
    exact List.subset_append_left _ _

/-- The loop goes on. -/
theorem loops (h : Tallied s) (hkept : Kept config s) {e : Consumer.Event} (hl : Looped e s.consumer c) :
    Tallied { s with consumer := c, counted := s.countedAfter e } := by
  rcases hl.counts with ⟨rfl, hdraining, haborting, hreport⟩ | ⟨hother, hreport, hback, hon⟩
  · exact h.counts hkept hl.jobs hl.unjoined hdraining haborting hreport
  · have hcounted : s.countedAfter e = s.counted := by
      cases e with
      | graceOver => exact absurd rfl hother
      | _ => rfl
    rw [hcounted]
    refine h.goesOn s.threads (by rw [hl.jobs, alive]) hl.unjoined hreport hback fun haborting hfinished => ?_
    exact ⟨fun hphase => (hon hphase).elim haborting hfinished, hl.unfinished⟩

/-- A thread is started, before anything was counted. -/
theorem takes (h : Tallied s) {d : Delivery} (next : s.consumer.step draw (.dequeued (.task d)) = some c)
    (threads : List Thread) : Tallied { s with consumer := c, threads } := by
  obtain ⟨hdequeuing, hready, -, -, hreport, hseen⟩ := take_next next
  obtain ⟨hcounted, haborted⟩ := h.early (by simp [hdequeuing]) (by simp [hdequeuing])
  constructor
  case unseen => simp [hseen]
  case distinct => simp [hseen]
  case reported =>
    rw [hreport]
    exact h.reported
  case early => exact fun _ _ => ⟨hcounted, haborted⟩
  case nodup => exact h.nodup
  case known => simp [hcounted]
  case covered => exact h.covered
  case left => simp [hready]

/-- A thread is over: the consumer has not seen that yet. -/
theorem drops (h : Tallied s) (hkept : Kept config s) (working : n ∈ s.alive) {ended aborted : List Nat}
    (hover : (ended ++ aborted).Perm (n :: (s.ended ++ s.aborted))) (hcovered : aborted ⊆ s.counted)
    (hearly : s.consumer.phase ≠ .aborting → aborted = s.aborted) :
    Tallied { s with consumer := s.consumer.dropJob n, ended, aborted } := by
  have hdrop : (n :: (s.consumer.dropJob n).jobs.map (·.serial)).Perm s.alive := serials_dropJob working hkept.nodup_alive
  have hfresh : n ∉ s.consumer.unjoined := fun hn => hkept.not_over working (h.unseen hn)
  constructor
  case unseen =>
    refine List.append_subset.2 ⟨fun k hk => ?_, fun k hk => ?_⟩
    · exact hover.mem_iff.2 (List.mem_cons_of_mem _ (h.unseen hk))
    · exact hover.mem_iff.2 (List.mem_singleton.1 hk ▸ List.mem_cons_self)
  case distinct =>
    refine List.nodup_append.2 ⟨h.distinct, List.nodup_singleton n, fun a ha b hb hab => hfresh ?_⟩
    rwa [← List.mem_singleton.1 hb, ← hab]
  case reported => exact h.reported
  case early =>
    intro haborting hfinished
    obtain ⟨hcounted, hnone⟩ := h.early haborting hfinished
    exact ⟨hcounted, (hearly haborting).trans hnone⟩
  case nodup => exact h.nodup
  case known =>
    intro k hk
    have hmem := h.known hk
    rw [List.append_assoc, List.mem_append] at hmem ⊢
    rcases hmem with hmem | hmem
    · rcases List.mem_cons.1 (hdrop.mem_iff.2 hmem) with rfl | hmem
      · exact .inr (hover.mem_iff.2 List.mem_cons_self)
      · exact .inl hmem
    · exact .inr (hover.mem_iff.2 (List.mem_cons_of_mem _ hmem))
  case covered => exact hcovered
  case left =>
    intro hphase k hk
    exact h.left hphase (hdrop.mem_iff.1 (List.mem_cons_of_mem _ hk))

end Tallied

/-- **One step.** -/
theorem Step.tallied {act : Act} (hstep : Step s act s') (hkept : Kept config s) (h : Tallied s) : Tallied s' := by
  cases hstep with
  | loop draw he next => exact h.loops hkept (loop_next he next)
  | take draw next => exact h.takes next _
  | ask working thread rest silent => exact h.goesOn _ rfl (.refl _) rfl id .intro
  | handled r thread rest asking goOn =>
    obtain ⟨-, stage, rfl⟩ := handled_next goOn
    exact h.goesOn _ (serials_setStage stage) (.refl _) rfl id .intro
  | answer a working thread rest asking other => exact h.goesOn _ rfl (.refl _) rfl id .intro
  | finish draw thread rest next =>
    obtain ⟨working, rfl⟩ := dropped_next (.inr rfl) next
    exact h.drops hkept working (.refl _) h.covered fun _ => rfl
  | breakDown draw thread waits he next =>
    obtain ⟨working, rfl⟩ := dropped_next he next
    exact h.drops hkept working (.refl _) h.covered fun _ => rfl
  | abort draw thread rests next =>
    obtain ⟨haborting, working, rfl⟩ := cancelled_next next
    refine h.drops hkept working List.perm_middle ?_ fun hphase => absurd haborting hphase
    exact List.cons_subset.2 ⟨h.left haborting working, h.covered⟩

theorem Reachable.tallied (h : Reachable config s) : Tallied s := by
  induction h with
  | start => exact .start
  | step h hstep ih => exact hstep.tallied h.kept ih

/-- When the consumer has stopped, the threads that were counted are the ones that were aborted and the late ones. -/
theorem Tallied.counted_perm (h : Tallied s) (hkept : Kept config s) (hfinished : s.consumer.phase = .finished) :
    s.counted.Perm (s.late ++ s.aborted) := by
  refine (List.perm_ext_iff_of_nodup h.nodup ?_).2 fun n => ?_
  · refine List.nodup_append.2 ⟨h.nodup.filter _, (List.nodup_append.1 hkept.nodup_over).2.1, fun a ha b hb hab => ?_⟩
    exact hkept.not_ended hb (hab ▸ of_decide_eq_true (List.mem_filter.1 ha).2)
  · rw [List.mem_append, late, List.mem_filter, decide_eq_true_eq]
    constructor
    · intro hn
      have hmem := h.known hn
      rw [hkept.idle hfinished, List.nil_append, List.mem_append] at hmem
      exact hmem.imp_left fun hended => ⟨hn, hended⟩
    · rintro (⟨hn, -⟩ | hn)
      · exact hn
      · exact h.covered hn

/-- The late threads are counted as aborted. -/
theorem Tallied.aborted (h : Tallied s) (hkept : Kept config s) (hfinished : s.consumer.phase = .finished) :
    s.consumer.report.aborted = s.aborted.length + s.late.length := by
  rw [h.reported, (h.counted_perm hkept hfinished).length_eq, List.length_append, Nat.add_comm]

end

end Courier.Crew
