import Courier.Proofs.Queue.Shift.Steps
/-
A consumer that goes on asking comes to the end of each task. A task that waits moves up
whenever the queue is asked and it is not handed out itself; so, if the queue is asked again
and again, at ever later times, it is handed out. And the story of a task has only so many
entries: so if each of them is followed by another, there is a last one.
-/

namespace Courier.Consumption

/-- Whether nothing befalls the task any more. -/
def Ended (l : List Entry) : Prop := ∃ e ∈ l.head?, e.note.isLast = true

namespace Shift

/-- A consumer's whole course, from its beginning. Nothing may happen for some time, or ever again. -/
structure Course (config : ConsumerConfig) (σ : Nat → Shift) : Prop where
  begins : Begins config (σ 0)
  goes : ∀ n, σ (n + 1) = σ n ∨ Step (σ n) (σ (n + 1))

/-- Whether a task waits to be handed out. -/
def Awaits (w : Shift) (t : Task) : Prop := ∀ e ∈ (w.story t.id).head?, ∃ wait s, e.note = .settled (.retry wait) s

/-- Whether the queue is asked for a task now. -/
def Asks (w w' : Shift) : Prop := w'.asked = w.now :: w.asked

/-- Whether a task is seen to: while it waits, the queue is asked at ever later times; no handler is at it for ever;
and what a handler returned is settled some time. -/
structure Attended (σ : Nat → Shift) (t : Task) : Prop where
  asked : ∀ n, (∀ k, n ≤ k → (σ k).Awaits t) → ∀ time, ∃ k, n ≤ k ∧ time ≤ (σ k).now ∧ Asks (σ k) (σ (k + 1))
  returns : ∀ n, ¬ ∀ k, n ≤ k → ∃ e ∈ ((σ k).story t.id).head?, ∃ s, e.note = .handed s
  settles : ∀ n, ¬ ∀ k, n ≤ k → ∃ e ∈ ((σ k).story t.id).head?, ∃ result, e.note = .returned result

section

variable {config : ConsumerConfig} {w w' : Shift} {t v : Task} {i : Nat}

/-- A step asks the queue for a task, or leaves those that wait where they are. -/
theorem Step.queue_cases (h : Step w w') :
    (w'.asked = w.asked ∧ w.site.queue.pending <+: w'.site.queue.pending ∧
      w.site.queue.scheduled ⊆ w'.site.queue.scheduled) ∨
    (w'.site.queue = (w.site.queue.dequeue w.now).1 ∧
      w'.log = (w.site.queue.dequeue w.now).2.toList.map (.handed w.now) ++ w.log) := by
  cases h with
  | dequeue draw running next => exact .inr ⟨rfl, rfl⟩
  | enqueue fresh => exact .inl ⟨rfl, List.prefix_append _ _, List.Subset.refl _⟩
  | wait _ | shuffle _ | calm _ _ _ _ | handle _ _ _ _ _ | breakDown _ _ _ _ =>
    exact .inl ⟨rfl, List.prefix_refl _, List.Subset.refl _⟩
  | @settle c c' draw j st clock running job stage next =>
    obtain ⟨hpending, hscheduled, -⟩ := settle_leaves w.site w.now clock j.delivery st
    exact .inl ⟨rfl, hpending ▸ List.prefix_refl _, hscheduled⟩

theorem Step.log_suffix (h : Step w w') : w.log <:+ w'.log := by
  cases h with
  | wait _ | enqueue _ | shuffle _ | calm _ _ _ _ => exact List.suffix_refl _
  | dequeue _ _ _ => exact List.suffix_append _ _
  | handle _ _ _ _ _ | breakDown _ _ _ _ | settle _ _ _ _ _ _ => exact List.suffix_cons _ _

theorem Step.came_subset (h : Step w w') : w.came ⊆ w'.came := by
  cases h with
  | enqueue _ => exact List.subset_cons_self _ _
  | wait _ | shuffle _ | calm _ _ _ _ | dequeue _ _ _ | handle _ _ _ _ _ | breakDown _ _ _ _ | settle _ _ _ _ _ _ =>
    exact List.Subset.refl _

/-! ## Moving up -/

/-- Whether a task waits with at most so many before it. -/
def Ahead (w : Shift) (v : Task) (i : Nat) : Prop :=
  ∃ before after, w.site.queue.pending = before ++ v :: after ∧ before.length ≤ i

theorem exists_ahead (h : v ∈ w.site.queue.pending) : ∃ i, Ahead w v i := by
  obtain ⟨before, after, h⟩ := List.append_of_mem h
  exact ⟨_, before, after, h, Nat.le_refl _⟩

/-- A task of which nothing more is noted was not handed out. -/
theorem not_handed {receipt : String} (hstory : w'.story v.id = w.story v.id)
    (hlog : w'.log = (some (⟨v, receipt⟩ : Delivery)).toList.map (.handed w.now) ++ w.log) : False := by
  have hhanded : w'.story v.id = ⟨v, .handed w.now⟩ :: w.story v.id := by simp [story, hlog, Entry.handed]
  exact List.ne_cons_self (hstory.symm.trans hhanded)

/-- A task that is not handed out stays where it is, and moves up when the queue is asked. -/
theorem Step.ahead (h : Step w w') (hstory : w'.story v.id = w.story v.id) (hv : Ahead w v i) :
    Ahead w' v i ∧ (Asks w w' → ∃ k < i, Ahead w' v k) := by
  obtain ⟨before, after, hpending, hi⟩ := hv
  rcases h.queue_cases with ⟨hasked, ⟨new, hnew⟩, -⟩ | ⟨hqueue, hlog⟩
  · refine ⟨⟨before, after ++ new, ?_, hi⟩, fun hasks => ?_⟩
    · rw [← hnew, hpending, List.append_assoc, List.cons_append]
    · exact absurd (hasked.symm.trans hasks) List.ne_cons_self
  · rcases MemoryQueue.dequeue_cases w.site.queue w.now with ⟨hnone, -⟩ | ⟨u, r, hu, hq⟩
    · have hmem : v ∈ (w.site.queue.promote w.now).pending :=
        MemoryQueue.mem_pending_promote.2 (.inl (hpending ▸ List.mem_append_cons_self))
      rw [hnone] at hmem
      cases hmem
    rw [hq] at hqueue hlog
    have hr : w'.site.queue.pending = r := by rw [hqueue]
    obtain ⟨due, hdue⟩ : ∃ due, (w.site.queue.promote w.now).pending = w.site.queue.pending ++ due := ⟨_, rfl⟩
    rw [hdue, hpending] at hu
    cases before with
    | nil =>
      cases hu
      exact (not_handed hstory hlog).elim
    | cons x before =>
      simp only [List.cons_append, List.cons.injEq] at hu
      have hahead : Ahead w' v before.length := ⟨before, after ++ due, by rw [hr, ← hu.2]; simp, Nat.le_refl _⟩
      simp only [List.length_cons] at hi
      exact ⟨⟨before, after ++ due, by rw [hr, ← hu.2]; simp, by omega⟩, fun _ => ⟨_, by omega, hahead⟩⟩

/-- A task that was put aside waits with the others when the queue is asked and it is due. -/
theorem Step.scheduled (h : Step w w') (hstory : w'.story v.id = w.story v.id) {due : Time}
    (hv : (due, v) ∈ w.site.queue.scheduled) :
    ((due, v) ∈ w'.site.queue.scheduled ∨ v ∈ w'.site.queue.pending) ∧
      (Asks w w' → due ≤ w.now → v ∈ w'.site.queue.pending) := by
  rcases h.queue_cases with ⟨hasked, -, hscheduled⟩ | ⟨hqueue, hlog⟩
  · exact ⟨.inl (hscheduled hv), fun hasks => absurd (hasked.symm.trans hasks) List.ne_cons_self⟩
  · have waits (hdue : due ≤ w.now) : v ∈ w'.site.queue.pending := by
      have hmem : v ∈ (w.site.queue.promote w.now).pending := MemoryQueue.mem_pending_promote.2 (.inr ⟨due, hdue, hv⟩)
      rcases MemoryQueue.dequeue_cases w.site.queue w.now with ⟨hnone, -⟩ | ⟨u, r, hu, hq⟩
      · rw [hnone] at hmem
        cases hmem
      rw [hq] at hqueue hlog
      rw [hqueue]
      rw [hu] at hmem
      rcases List.mem_cons.1 hmem with rfl | hmem
      · exact (not_handed hstory hlog).elim
      · exact hmem
    refine ⟨?_, fun _ => waits⟩
    by_cases hdue : due ≤ w.now
    · exact .inr (waits hdue)
    · left
      have hkept := MemoryQueue.mem_scheduled_promote.2 ⟨hv, Nat.lt_of_not_le hdue⟩
      rcases MemoryQueue.dequeue_cases w.site.queue w.now with ⟨-, hq⟩ | ⟨u, r, hu, hq⟩ <;> rw [hqueue, hq] <;> exact hkept

end

/-! ## Courses -/

namespace Course

section

variable {config : ConsumerConfig} {σ : Nat → Shift} {t v : Task} {n k : Nat}

theorem kept (h : Course config σ) (n : Nat) : Kept config (σ n) := by
  induction n with
  | zero => exact h.begins.kept
  | succ n ih =>
    rcases h.goes n with hn | hn
    · exact hn ▸ ih
    · exact ih.step hn

theorem came (h : Course config σ) (ht : t ∈ (σ n).came) (hk : n ≤ k) : t ∈ (σ k).came := by
  induction k, hk using Nat.le_induction with
  | base => exact ht
  | succ k _ ih =>
    rcases h.goes k with hn | hn
    · exact hn ▸ ih
    · exact hn.came_subset ih

theorem story_suffix (h : Course config σ) (id : Uuid) (hk : n ≤ k) : (σ n).story id <:+ (σ k).story id := by
  induction k, hk using Nat.le_induction with
  | base => exact List.suffix_refl _
  | succ k _ ih =>
    rcases h.goes k with hn | hn
    · exact hn ▸ ih
    · exact ih.trans (hn.log_suffix.filter _)

/-- A task of which nothing more is noted is not waiting, if the queue is asked again and again. -/
theorem not_ahead (h : Course config σ) (hstill : ∀ k, n ≤ k → (σ k).story v.id = (σ n).story v.id)
    (hasked : ∀ k, n ≤ k → ∃ k', k ≤ k' ∧ Asks (σ k') (σ (k' + 1))) (i : Nat) : ∀ k, n ≤ k → ¬ Ahead (σ k) v i := by
  have next {k i : Nat} (hk : n ≤ k) (hv : Ahead (σ k) v i) :
      Ahead (σ (k + 1)) v i ∧ (Asks (σ k) (σ (k + 1)) → ∃ i' < i, Ahead (σ (k + 1)) v i') := by
    rcases h.goes k with hn | hn
    · rw [hn]
      exact ⟨hv, fun hasks => absurd hasks List.ne_cons_self⟩
    · exact hn.ahead ((hstill (k + 1) (by omega)).trans (hstill k hk).symm) hv
  have later {k k' i : Nat} (hk : n ≤ k) (hk' : k ≤ k') (hv : Ahead (σ k) v i) : Ahead (σ k') v i := by
    induction k', hk' using Nat.le_induction with
    | base => exact hv
    | succ k' hk' ih => exact (next (Nat.le_trans hk hk') ih).1
  -- the fewer there are before it, the sooner it is handed out
  induction i using Nat.strong_induction_on with
  | _ i ih =>
    intro k hk hv
    obtain ⟨k', hk', hasks⟩ := hasked k hk
    obtain ⟨i', hi', hv'⟩ := (next (by omega) (later hk hk' hv)).2 hasks
    exact ih i' hi' (k' + 1) (by omega) hv'

/-- So a task is handed out some time, however late it is due. -/
theorem not_waits (h : Course config σ) (hstill : ∀ k, n ≤ k → (σ k).story v.id = (σ n).story v.id)
    (hasked : ∀ k, n ≤ k → ∀ time, ∃ k', k ≤ k' ∧ time ≤ (σ k').now ∧ Asks (σ k') (σ (k' + 1))) {due : Time} :
    ¬ (σ n).Waits v due := by
  have not_pending {k : Nat} (hk : n ≤ k) : v ∉ (σ k).site.queue.pending := fun hv => by
    obtain ⟨i, hv⟩ := exists_ahead hv
    refine h.not_ahead hstill (fun k hk => ?_) i k hk hv
    obtain ⟨k', hk', -, hasks⟩ := hasked k hk 0
    exact ⟨k', hk', hasks⟩
  rintro (⟨hv, -⟩ | ⟨d, -, hv⟩)
  · exact not_pending (Nat.le_refl n) hv
  -- it was put aside, and is so still when it is due
  have later {k : Nat} (hk : n ≤ k) : (d, v) ∈ (σ k).site.queue.scheduled := by
    induction k, hk using Nat.le_induction with
    | base => exact hv
    | succ k hk ih =>
      rcases h.goes k with hn | hn
      · exact hn ▸ ih
      · exact (hn.scheduled ((hstill (k + 1) (by omega)).trans (hstill k hk).symm) ih).1.resolve_right
          (not_pending (by omega))
  obtain ⟨k, hk, hdue, hasks⟩ := hasked n (Nat.le_refl n) d
  rcases h.goes k with hn | hn
  · rw [hn] at hasks
    exact List.ne_cons_self hasks
  · exact not_pending (by omega)
      ((hn.scheduled ((hstill (k + 1) (by omega)).trans (hstill k hk).symm) (later hk)).2 hasks hdue)

/-- Something befalls a task that is seen to, until its end. -/
theorem progress (h : Course config σ) (hseen : Attended σ t) (ht : t ∈ (σ n).came) (hopen : ¬ Ended ((σ n).story t.id)) :
    ∃ k, n ≤ k ∧ ((σ n).story t.id).length < ((σ k).story t.id).length := by
  by_contra hnever
  have hstill (k : Nat) (hk : n ≤ k) : (σ k).story t.id = (σ n).story t.id := by
    refine ((h.story_suffix t.id hk).eq_of_length_le ?_).symm
    exact Nat.le_of_not_lt fun hlt => hnever ⟨k, hk, hlt⟩
  have hshows := ((h.kept n).told t ht).2
  -- what is to be handed out next waits for ever
  have waits {v : Task} {due : Time} (hid : v.id = t.id) (hv : (σ n).Waits v due) (hawaits : (σ n).Awaits t) : False := by
    refine h.not_waits (fun k hk => ?_) (fun k hk => hseen.asked k fun k' hk' => ?_) hv
    · rw [hid]
      exact hstill k hk
    · rw [Awaits, hstill k' (by omega)]
      exact hawaits
  match hl : (σ n).story t.id, hshows with
  | [], hshows => exact waits rfl hshows (by simp [Awaits, hl])
  | ⟨u, .handed s⟩ :: _, _ => exact hseen.returns n fun k hk => ⟨_, by rw [hstill k hk, hl]; rfl, s, rfl⟩
  | ⟨u, .returned result⟩ :: _, _ => exact hseen.settles n fun k hk => ⟨_, by rw [hstill k hk, hl]; rfl, result, rfl⟩
  | ⟨u, .settled (.retry wait) s⟩ :: _, hshows =>
    have hid : u.next.id = t.id := mem_story (hl ▸ List.mem_cons_self)
    exact waits hid hshows (by simp [Awaits, hl])
  | ⟨u, .broke⟩ :: _, _ | ⟨u, .settled .ack s⟩ :: _, _ | ⟨u, .settled (.deadLetter reason) s⟩ :: _, _ =>
    exact hopen ⟨_, by rw [hl]; rfl, rfl⟩

/-- **Each task that is seen to comes to its end.** -/
theorem ends (hm : config.maxRetries < 2 ^ 32) (h : Course config σ) (hseen : Attended σ t) (ht : t ∈ (σ n).came) :
    ∃ k, n ≤ k ∧ Ended ((σ k).story t.id) := by
  by_contra hnever
  have longer (i : Nat) : ∃ k, n ≤ k ∧ i ≤ ((σ k).story t.id).length := by
    induction i with
    | zero => exact ⟨n, Nat.le_refl n, Nat.zero_le _⟩
    | succ i ih =>
      obtain ⟨k, hk, hi⟩ := ih
      obtain ⟨k', hk', hlt⟩ := h.progress hseen (h.came ht hk) fun hended => hnever ⟨k, hk, hended⟩
      exact ⟨k', by omega, by omega⟩
  obtain ⟨k, hk, hi⟩ := longer (3 * (config.maxRetries - t.attempts + 1) + 1)
  have hlength := ((h.kept k).told t (h.came ht hk)).1.length_le hm
  omega

end

end Course

end Shift
end Courier.Consumption
