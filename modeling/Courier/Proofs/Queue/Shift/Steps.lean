import Courier.Proofs.Queue.Shift
/-
The invariant of a consumer at work, step by step. Each step is about one task at most: the
story of that task goes on, and all others are where their stories show them.
-/

namespace Courier.Consumption.Shift

open Calendar (Moment)
open Number (Binary64)
open Consumer (Job Event)

section

variable {config : ConsumerConfig} {w w' : Shift} {t u v : Task}

theorem Step.site (h : Step w w') (hsite : Invariant w.site) : Invariant w'.site := by
  cases h with
  | wait _ => exact hsite
  | enqueue fresh => exact hsite.step (.enqueue fresh)
  | shuffle perm => exact hsite.step (.shuffle perm)
  | calm draw running he next => exact hsite.step (.quiet draw running he.quiet next)
  | dequeue draw running next => exact hsite.step (.dequeue draw w.now running next)
  | handle draw result running job next => exact hsite.step (.handle draw result running job next)
  | @breakDown _ _ draw j running job next =>
    exact hsite.step (.quiet draw running (show Quiet (.broken j.serial) from trivial) next)
  | settle draw clock running job stage next => exact hsite.step (.settle draw w.now clock running job stage next)

/-- A step of which nothing is noted. -/
theorem Kept.silent (h : Kept config w) (hlog : w'.log = w.log) (hleaves : ∀ u, Leaves w w' u) :
    ∀ t ∈ w.came, Told config w' t := by
  intro t ht
  have hstory : w'.story t.id = w.story t.id := by rw [story, story, hlog]
  obtain ⟨htold, hshows⟩ := h.told t ht
  exact ⟨hstory ▸ htold, hstory ▸ hshows.imp (fun e he => mem_story he) fun u _ => hleaves u⟩

/-- A step of which something is noted of one task. -/
theorem Kept.noted (h : Kept config w) {e : Entry} (hlog : w'.log = e :: w.log)
    (others : ∀ u : Task, u.id ≠ e.task.id → Leaves w w' u)
    (own : ∀ t ∈ w.came, e.task.id = t.id → Story config t (e :: w.story t.id) ∧ Shows config w' t (e :: w.story t.id)) :
    ∀ t ∈ w.came, Told config w' t := by
  intro t ht
  by_cases hid : e.task.id = t.id
  · have hstory : w'.story t.id = e :: w.story t.id := by simp [story, hlog, hid]
    rw [Told, hstory]
    exact own t ht hid
  · have hstory : w'.story t.id = w.story t.id := by simp [story, hlog, hid]
    obtain ⟨htold, hshows⟩ := h.told t ht
    exact ⟨hstory ▸ htold, hstory ▸ hshows.imp (fun e he => mem_story he) fun u hu => others u (hu ▸ Ne.symm hid)⟩

section

variable {c c' : Consumer} {draw : Binary64 → Binary64 → Binary64} {j : Job}

/-- When a job ends, the others go on. -/
theorem mem_dropJob (hsite : Invariant w.site) (running : w.site.consumer = some c) (hj : j ∈ w.jobs)
    (hrunning : w'.site.consumer = some (c.dropJob j.serial)) {k : Job} :
    k ∈ w'.jobs ↔ k ∈ w.jobs ∧ k.delivery.task.id ≠ j.delivery.task.id := by
  rw [jobs_running hrunning, jobs_running running, Consumer.dropJob, List.mem_filter]
  rw [jobs_running running] at hj
  refine and_congr_right fun hk => ?_
  rw [decide_eq_true_eq]
  refine not_congr ⟨fun he => ?_, fun he => ?_⟩
  · rw [List.inj_on_of_nodup_map (hsite.sound c running).serials hk hj he]
  · rw [List.inj_on_of_nodup_map (hsite.sound c running).tasks hk hj he]

/-- When a job is in another stage, the others are where they were. -/
theorem mem_setStage {st : Consumer.Stage} (hsite : Invariant w.site) (running : w.site.consumer = some c) (hj : j ∈ w.jobs)
    (hrunning : w'.site.consumer = some (c.setStage j.serial st)) {k : Job} :
    k ∈ w'.jobs ↔ (k ∈ w.jobs ∧ k.delivery.task.id ≠ j.delivery.task.id) ∨ k = { j with stage := st } := by
  rw [jobs_running hrunning, jobs_running running, Consumer.setStage, List.mem_map]
  rw [jobs_running running] at hj
  have hsound := hsite.sound c running
  constructor
  · rintro ⟨k', hk', rfl⟩
    by_cases hserial : k'.serial = j.serial
    · right
      rw [if_pos hserial, List.inj_on_of_nodup_map hsound.serials hk' hj hserial]
    · left
      rw [if_neg hserial]
      exact ⟨hk', fun he => hserial (by rw [List.inj_on_of_nodup_map hsound.tasks hk' hj he])⟩
  · rintro (⟨hk, hid⟩ | rfl)
    · exact ⟨k, hk, if_neg fun he => hid (by rw [List.inj_on_of_nodup_map hsound.serials hk hj he])⟩
    · exact ⟨j, hj, if_pos rfl⟩

end

/-- A task that is handed out is due. -/
theorem Waits.due_le (hsite : Invariant w.site) {due : Time} (h : w.Waits u due)
    (hu : u ∈ (w.site.queue.promote w.now).pending) : due ≤ w.now := by
  rcases h with ⟨-, hdue⟩ | ⟨d, hdue, hd⟩
  · exact hdue
  have hscheduled : u ∈ w.site.at_ .scheduled := List.mem_map_of_mem (f := (·.2)) hd
  rcases MemoryQueue.mem_pending_promote.1 hu with hu | ⟨d', hd', hu⟩
  · cases (hsite.eq_of_id (p := .pending) hu hscheduled rfl).1
  · -- it was put aside once
    have hnodup : (w.site.queue.scheduled.map fun s => s.2.id).Nodup := by
      have := hsite.nodup_ids_at .scheduled
      rwa [Site.at_, List.map_map] at this
    cases List.inj_on_of_nodup_map hnodup hd hu rfl
    exact Nat.le_trans hdue hd'

/-- What is handed out was waiting. -/
theorem at_of_dequeued {d : Delivery} (h : (w.site.queue.dequeue w.now).2 = some d) :
    ∃ p, (p = .pending ∨ p = .scheduled) ∧ d.task ∈ w.site.at_ p := by
  rcases MemoryQueue.mem_pending_promote.1 (MemoryQueue.mem_of_dequeued h) with hd | ⟨due, -, hd⟩
  · exact ⟨.pending, .inl rfl, hd⟩
  · exact ⟨.scheduled, .inr rfl, List.mem_map_of_mem (f := (·.2)) hd⟩

theorem Kept.dequeue (h : Kept config w) {c c' : Consumer} {draw : Binary64 → Binary64 → Binary64}
    (running : w.site.consumer = some c)
    (next : c.step draw (.dequeued (.ofAnswer (.ok (w.site.queue.dequeue w.now).2))) = some c')
    (hsite : w'.site = { w.site with consumer := some c', queue := (w.site.queue.dequeue w.now).1 }) (hnow : w'.now = w.now)
    (hlog : w'.log = (w.site.queue.dequeue w.now).2.toList.map (.handed w.now) ++ w.log) :
    ∀ t ∈ w.came, Told config w' t := by
  have hjobs' : w'.jobs = c'.jobs := jobs_running (by rw [hsite])
  rcases MemoryQueue.dequeue_cases w.site.queue w.now with ⟨-, hq⟩ | ⟨v, r, hpending, hq⟩
  · rw [hq] at next hsite hlog
    refine h.silent hlog fun u => ?_
    constructor
    · exact Nat.le_of_eq hnow.symm
    · exact fun hu => hsite ▸ MemoryQueue.mem_pending_promote.2 (.inl hu)
    · intro d hd
      rw [hsite, hnow]
      by_cases hdue : d ≤ w.now
      · exact .inr ⟨MemoryQueue.mem_pending_promote.2 (.inr ⟨d, hdue, hd⟩), hdue⟩
      · exact .inl (MemoryQueue.mem_scheduled_promote.2 ⟨hd, Nat.lt_of_not_le hdue⟩)
    · exact fun hu => hsite ▸ hu
    · intro j _
      rw [hjobs', (empty_next next).1, jobs_running running]
    · exact fun hu => hsite ▸ hu
    · exact fun l hl => hsite ▸ hl
  · rw [hq] at next hsite hlog
    have hv : v ∈ (w.site.queue.promote w.now).pending := hpending ▸ List.mem_cons_self
    have hjobs : w'.jobs = w.jobs ++ [⟨c.report.started, ⟨v, v.id.text⟩, .handling⟩] := by
      rw [hjobs', (task_next next).1, jobs_running running]
    refine h.noted (e := ⟨v, .handed w.now⟩) hlog (fun u hu => ?_) fun t ht hid => ?_
    · -- another task moves up
      have ahead (hu' : u ∈ (w.site.queue.promote w.now).pending) : u ∈ w'.site.queue.pending := by
        rw [hpending] at hu'
        rcases List.mem_cons.1 hu' with rfl | hu'
        · exact absurd rfl hu
        · exact hsite ▸ hu'
      constructor
      · exact Nat.le_of_eq hnow.symm
      · exact fun hu => ahead (MemoryQueue.mem_pending_promote.2 (.inl hu))
      · intro d hd
        by_cases hdue : d ≤ w.now
        · exact .inr ⟨ahead (MemoryQueue.mem_pending_promote.2 (.inr ⟨d, hdue, hd⟩)), hnow ▸ hdue⟩
        · exact .inl (hsite ▸ MemoryQueue.mem_scheduled_promote.2 ⟨hd, Nat.lt_of_not_le hdue⟩)
      · exact fun hu' => hsite ▸ List.mem_append_left _ (MemoryQueue.mem_release (q := w.site.queue.promote w.now) hu' hu)
      · intro j hj
        rw [hjobs, List.mem_append, List.mem_singleton]
        refine ⟨fun hj' => hj'.resolve_right ?_, .inl⟩
        rintro rfl
        exact hu hj.symm
      · exact fun hu => hsite ▸ hu
      · exact fun l hl => hsite ▸ hl
    · -- the task is handed out
      have hworks : w'.Works v .handling := ⟨_, by rw [hjobs]; exact List.mem_concat_self, rfl, rfl⟩
      obtain ⟨p, hp, hplace⟩ := at_of_dequeued (congrArg (·.2) hq)
      have hstory := (h.told t ht).1
      rcases h.waiting ht hp hplace hid with ⟨hl, rfl, -⟩ | ⟨u, wait, s, rest, hl, rfl, hwaits⟩
      · rw [hl]
        exact ⟨.first _, hworks⟩
      · rw [hl] at hstory ⊢
        exact ⟨.later hstory (.again u (hwaits.due_le h.site hv)), hworks⟩

section

variable {c c' : Consumer} {draw : Binary64 → Binary64 → Binary64} {j : Job}

theorem Kept.handle (h : Kept config w) {result : Except TaskFailure Unit} (running : w.site.consumer = some c)
    (job : c.job? j.serial = some j) (next : c.step draw (.handled j.serial result) = some c')
    (hqueue : w'.site.queue = w.site.queue) (hack : w'.site.acknowledged = w.site.acknowledged)
    (hrunning : w'.site.consumer = some c') (hnow : w'.now = w.now)
    (hlog : w'.log = ⟨j.delivery.task, .returned result⟩ :: w.log) : ∀ t ∈ w.came, Told config w' t := by
  obtain ⟨hstage, rfl⟩ := handled_next job next
  have hj : j ∈ w.jobs := jobs_running running ▸ (job?_some job).1
  have hjobs {k : Job} := mem_setStage (k := k) h.site running hj hrunning
  refine h.noted hlog (fun u hu => ?_) fun t ht hid => ?_
  · refine .of_jobs (Nat.le_of_eq hnow.symm) hqueue hack fun k hk => ?_
    have hne : k.delivery.task.id ≠ j.delivery.task.id := hk ▸ hu
    refine ⟨fun hk' => ?_, fun hk' => hjobs.2 (.inl ⟨hk', hne⟩)⟩
    rcases hjobs.1 hk' with ⟨hk', -⟩ | rfl
    · exact hk'
    · exact absurd rfl hne
  · have hworks : w'.Works j.delivery.task (.settling (c.config.settlement draw j.delivery.task result)) :=
      ⟨_, hjobs.2 (.inr rfl), rfl, rfl⟩
    rw [h.configured c running] at hworks
    have hstory := (h.told t ht).1
    rcases h.working ht hj hid with ⟨-, s, rest, hl⟩ | ⟨draw, result, rest, hsettling, -⟩
    · rw [hl] at hstory ⊢
      exact ⟨.later hstory (.returned _ s result), draw, hworks⟩
    · rw [hstage] at hsettling
      cases hsettling

theorem Kept.breakDown (h : Kept config w) (running : w.site.consumer = some c) (job : c.job? j.serial = some j)
    (next : c.step draw (.broken j.serial) = some c') (hqueue : w'.site.queue = w.site.queue)
    (hack : w'.site.acknowledged = w.site.acknowledged) (hrunning : w'.site.consumer = some c') (hnow : w'.now = w.now)
    (hlog : w'.log = ⟨j.delivery.task, .broke⟩ :: w.log) : ∀ t ∈ w.came, Told config w' t := by
  obtain ⟨hstage, rfl⟩ := broken_next job next
  have hj : j ∈ w.jobs := jobs_running running ▸ (job?_some job).1
  have hjobs {k : Job} := mem_dropJob (k := k) h.site running hj hrunning
  refine h.noted hlog (fun u hu => ?_) fun t ht hid => ?_
  · exact .of_jobs (Nat.le_of_eq hnow.symm) hqueue hack fun k hk => hjobs.trans (and_iff_left (hk ▸ hu))
  · have hleft : w'.Left j.delivery.task := ⟨hqueue ▸ inflight_of_job h.site hj, fun k hk => (hjobs.1 hk).2⟩
    have hstory := (h.told t ht).1
    rcases h.working ht hj hid with ⟨-, s, rest, hl⟩ | ⟨draw, result, rest, hsettling, -⟩
    · rw [hl] at hstory ⊢
      exact ⟨.later hstory (.broke _ s), hleft⟩
    · rw [hstage] at hsettling
      cases hsettling

/-- What a settlement does to the queue. -/
theorem settle_leaves (s : Site) (now : Time) (clock : Moment) (d : Delivery) (st : Settlement) :
    (s.settle now clock d st).queue.pending = s.queue.pending ∧
    s.queue.scheduled ⊆ (s.settle now clock d st).queue.scheduled ∧
    (s.settle now clock d st).queue.inflight = (s.queue.release d.task.id).inflight ∧
    s.acknowledged ⊆ (s.settle now clock d st).acknowledged ∧ s.queue.dead ⊆ (s.settle now clock d st).queue.dead := by
  cases st with
  | ack =>
    exact ⟨rfl, List.Subset.refl _, rfl, List.subset_cons_self _ _, List.Subset.refl _⟩
  | retry wait => exact ⟨rfl, List.subset_append_left _ _, rfl, List.Subset.refl _, List.Subset.refl _⟩
  | deadLetter reason => exact ⟨rfl, List.Subset.refl _, rfl, List.Subset.refl _, List.subset_append_left _ _⟩

theorem Kept.settle (h : Kept config w) {st : Settlement} (clock : Moment) (running : w.site.consumer = some c)
    (job : c.job? j.serial = some j) (stage : j.stage = .settling st) (next : c.step draw (.settled j.serial) = some c')
    (hsite : w'.site = { w.site.settle w.now clock j.delivery st with consumer := some c' }) (hnow : w'.now = w.now)
    (hlog : w'.log = ⟨j.delivery.task, .settled st w.now⟩ :: w.log) : ∀ t ∈ w.came, Told config w' t := by
  obtain rfl := settled_next next
  have hj : j ∈ w.jobs := jobs_running running ▸ (job?_some job).1
  have hrunning : w'.site.consumer = some (c.dropJob j.serial) := by rw [hsite]
  have hjobs {k : Job} := mem_dropJob (k := k) h.site running hj hrunning
  obtain ⟨hpending, hscheduled, hinflight, hack, hdead⟩ := settle_leaves w.site w.now clock j.delivery st
  refine h.noted hlog (fun u hu => ?_) fun t ht hid => ?_
  · refine ⟨Nat.le_of_eq hnow.symm, fun hu => ?_, fun d hd => .inl ?_, fun hu' => ?_,
      fun k hk => hjobs.trans (and_iff_left (hk ▸ hu)), fun hu => ?_, fun l hl => ?_⟩ <;> rw [hsite]
    · exact hpending ▸ hu
    · exact hscheduled hd
    · exact hinflight ▸ MemoryQueue.mem_release hu' hu
    · exact hack hu
    · exact hdead hl
  · have hstory := (h.told t ht).1
    rcases h.working ht hj hid with ⟨hhandling, -⟩ | ⟨draw, result, rest, hsettling, hl⟩
    · rw [stage] at hhandling
      cases hhandling
    rw [stage] at hsettling
    cases hsettling
    rw [hl] at hstory ⊢
    refine ⟨.later hstory (.settled _ result draw _), ?_⟩
    cases hst : config.settlement draw j.delivery.task result with
    | ack =>
      rw [hst] at hsite
      show j.delivery.task ∈ w'.site.acknowledged
      rw [hsite]
      exact List.mem_cons_self
    | retry wait =>
      rw [hst] at hsite
      refine .inr ⟨w.now + wait, Nat.le_refl _, ?_⟩
      rw [hsite]
      exact List.mem_concat_self
    | deadLetter reason =>
      rw [hst] at hsite
      refine ⟨clock, ?_⟩
      rw [hsite]
      exact List.mem_concat_self

end

theorem Kept.step (h : Kept config w) (hstep : Step w w') : Kept config w' := by
  have hsite := hstep.site h.site
  have known_cons {j : Job} {note : Note} {l : List Entry} (hj : j ∈ w.jobs) (hl : l = ⟨j.delivery.task, note⟩ :: w.log) :
      ∀ e ∈ l, e.task.id ∈ w.site.enqueued.map (·.id) := by
    rw [hl]
    intro e he
    rcases List.mem_cons.1 he with rfl | he
    · exact h.site.mem_enqueued (inflight_of_job h.site hj)
    · exact h.known e he
  cases hstep with
  | wait later =>
    exact ⟨hsite, h.configured, h.known, h.silent rfl fun u => .of_jobs later rfl rfl fun _ _ => .rfl⟩
  | @enqueue t fresh =>
    refine ⟨hsite, h.configured, fun e he => List.mem_cons_of_mem _ (h.known e he), fun t' ht' => ?_⟩
    rcases List.mem_cons.1 ht' with rfl | ht'
    · have hstory : w.story t'.id = [] := by
        rw [story, List.filter_eq_nil_iff]
        intro e he hid
        exact fresh (of_decide_eq_true hid ▸ h.known e he)
      show Story config t' (w.story t'.id) ∧ Shows config _ t' (w.story t'.id)
      rw [hstory]
      exact ⟨.came, .inl ⟨List.mem_concat_self, Nat.zero_le _⟩⟩
    · refine h.silent ?_ (fun u => ?_) t' ht'
      · rfl
      · exact ⟨Nat.le_refl _, List.mem_append_left _, fun _ => .inl, id, fun _ _ => .rfl, id, List.Subset.refl _⟩
  | shuffle perm =>
    exact ⟨hsite, h.configured, h.known, h.silent rfl fun u =>
      ⟨Nat.le_refl _, id, fun _ => .inl, perm.mem_iff.2, fun _ _ => .rfl, id, List.Subset.refl _⟩⟩
  | @calm c c' draw e running he next =>
    obtain ⟨hjobs, hconfig⟩ := calm_next he next
    refine ⟨hsite, fun c'' hc => ?_, h.known, h.silent rfl fun u => .of_jobs (Nat.le_refl _) rfl rfl fun j _ => ?_⟩
    · cases hc
      exact hconfig.trans (h.configured c running)
    · rw [jobs_running running, jobs_running (c := c') rfl, hjobs]
  | @dequeue c c' draw running next =>
    refine ⟨hsite, fun c'' hc => ?_, fun e he => ?_, h.dequeue running next rfl rfl rfl⟩
    · cases hc
      refine Eq.trans ?_ (h.configured c running)
      cases hd : (w.site.queue.dequeue w.now).2 with
      | none =>
        rw [hd] at next
        exact (empty_next next).2
      | some d =>
        rw [hd] at next
        exact (task_next next).2
    · rcases List.mem_append.1 he with he | he
      · obtain ⟨d, hd, rfl⟩ := List.mem_map.1 he
        obtain ⟨p, -, hp⟩ := at_of_dequeued (Option.mem_toList.1 hd)
        exact h.site.mem_enqueued hp
      · exact h.known e he
  | @handle c c' draw j result running job next =>
    have hj : j ∈ w.jobs := jobs_running running ▸ (job?_some job).1
    refine ⟨hsite, fun c'' hc => ?_, known_cons hj rfl, h.handle running job next rfl rfl rfl rfl rfl⟩
    cases hc
    rw [(handled_next job next).2]
    exact h.configured c running
  | @breakDown c c' draw j running job next =>
    have hj : j ∈ w.jobs := jobs_running running ▸ (job?_some job).1
    refine ⟨hsite, fun c'' hc => ?_, known_cons hj rfl, h.breakDown running job next rfl rfl rfl rfl rfl⟩
    cases hc
    rw [(broken_next job next).2]
    exact h.configured c running
  | @settle c c' draw j st clock running job stage next =>
    have hj : j ∈ w.jobs := jobs_running running ▸ (job?_some job).1
    refine ⟨hsite, fun c'' hc => ?_, known_cons hj rfl, h.settle clock running job stage next rfl rfl rfl⟩
    cases hc
    rw [settled_next next]
    exact h.configured c running

theorem Begins.kept (h : Begins config w) : Kept config w := by
  cases h with
  | @intro s h free places now =>
    have hreachable := (h.step (.start config places free)).step (.recover (fun a _ => a) rfl rfl)
    refine ⟨hreachable.invariant, fun c hc => ?_, nofun, fun t ht => ⟨.came, ?_⟩⟩
    · cases hc
      rfl
    · rcases List.mem_append.1 ht with ht | ht
      · exact .inl ⟨ht, Nat.zero_le _⟩
      · obtain ⟨⟨d, u⟩, hd, rfl⟩ := List.mem_map.1 ht
        exact .inr ⟨d, Nat.zero_le _, hd⟩

end

end Courier.Consumption.Shift
