import Mathlib.Data.List.Nodup
import Mathlib.Data.List.Pairwise
import Courier.Proofs.Queue.Consuming
import Courier.Proofs.Queue.Task
/-
Every task that was put on a queue in memory is in exactly one place, whatever
the consumers on it go through, and it got there by right: acknowledged after its
handler returned well, dead after its handler gave it up or had tried often enough.

What carries the proof is that a consumer's jobs are deliveries in flight, each
under a number of its own, and that their tasks are distinct. So a settlement
releases the one task it is about; and a consumer that starts has no jobs, so that
putting the tasks in flight back takes none from under a handler.
-/

namespace Courier.Consumption

open Consumer (Job Event Dequeued)

/-- The task but for the count of attempts. -/
def bare (t : Task) : Task := t.withAttempts 0

theorem eq_withAttempts {t u : Task} (h : bare u = bare t) : u = t.withAttempts u.attempts := by
  have h := congrArg (·.withAttempts u.attempts) h
  simpa only [bare, Task.withAttempts_withAttempts, Task.withAttempts_attempts] using h

/-! ## The invariant -/

/-- Whether a task was given up by right. -/
def Hopeless (handled : List Handled) (t : Task) : Prop :=
  (∃ reason m, ⟨t, .error (.fatal reason), m⟩ ∈ handled) ∨
    ∃ reason m, ⟨t, .error (.retry reason), m⟩ ∈ handled ∧ m ≤ t.attempts

/-- Whether a handler's result calls for a settlement. -/
def Warranted (handled : List Handled) (t : Task) : Settlement → Prop
  | .ack => ∃ m, ⟨t, .ok (), m⟩ ∈ handled
  | .retry _ => True
  | .deadLetter _ => Hopeless handled t

/-- What holds of a consumer that is running. -/
structure Sound (s : Site) (c : Consumer) : Prop where
  serials : (c.jobs.map (·.serial)).Nodup
  recent : ∀ j ∈ c.jobs, j.serial < c.report.started
  inflight : ∀ j ∈ c.jobs, j.delivery.task ∈ s.queue.inflight
  tasks : (c.jobs.map (·.delivery.task.id)).Nodup
  resting : c.phase = .starting ∨ c.phase = .finished → c.jobs = []
  settling : ∀ j ∈ c.jobs, ∀ st, j.stage = .settling st → Warranted s.handled j.delivery.task st

structure Invariant (s : Site) : Prop where
  conserved : ((s.queue.tasks ++ s.acknowledged).map bare).Perm (s.enqueued.map bare)
  distinct : (s.enqueued.map (·.id)).Nodup
  sound : ∀ c, s.consumer = some c → Sound s c
  acknowledged : ∀ t ∈ s.acknowledged, ∃ m, ⟨t, .ok (), m⟩ ∈ s.handled
  dead : ∀ l ∈ s.queue.dead, Hopeless s.handled l.task

theorem Invariant.ids {s : Site} (h : Invariant s) : ((s.queue.tasks ++ s.acknowledged).map (·.id)).Nodup := by
  have hperm := (h.conserved.map (·.id)).nodup_iff
  simp only [List.map_map, Function.comp_def, bare, Task.withAttempts] at hperm
  exact hperm.2 h.distinct

theorem Invariant.queue_ids {s : Site} (h : Invariant s) : (s.queue.tasks.map (·.id)).Nodup := by
  have := h.ids
  rw [List.map_append, List.nodup_append] at this
  exact this.1

/-! ## Consumers -/

section

variable {s s' : Site} {c c' : Consumer}

/-- A consumer some of whose jobs came to an end. -/
theorem Sound.sublist (h : Sound s c) (hjobs : c'.jobs.Sublist c.jobs) (hstarted : c'.report.started = c.report.started)
    (hrest : c'.phase = .starting ∨ c'.phase = .finished → c'.jobs = []) : Sound s c' where
  serials := (hjobs.map _).nodup h.serials
  recent j hj := hstarted ▸ h.recent j (hjobs.subset hj)
  inflight j hj := h.inflight j (hjobs.subset hj)
  tasks := (hjobs.map _).nodup h.tasks
  resting := hrest
  settling j hj := h.settling j (hjobs.subset hj)

theorem dropJob_sublist (c : Consumer) (serial : Nat) : (c.dropJob serial).jobs.Sublist c.jobs := List.filter_sublist

theorem Sound.dropJob (h : Sound s c) (serial : Nat) : Sound s (c.dropJob serial) :=
  h.sublist (dropJob_sublist c serial) rfl fun hp => by simp [Consumer.dropJob, h.resting hp]

theorem Hopeless.mono {handled handled' : List Handled} (hsub : handled ⊆ handled') {t : Task}
    (h : Hopeless handled t) : Hopeless handled' t := by
  rcases h with ⟨reason, m, h⟩ | ⟨reason, m, h, hm⟩
  · exact .inl ⟨reason, m, hsub h⟩
  · exact .inr ⟨reason, m, hsub h, hm⟩

theorem Warranted.mono {handled handled' : List Handled} (hsub : handled ⊆ handled') {t : Task} {st : Settlement}
    (h : Warranted handled t st) : Warranted handled' t st := by
  cases st with
  | ack =>
    obtain ⟨m, h⟩ := h
    exact ⟨m, hsub h⟩
  | retry wait => trivial
  | deadLetter reason => exact Hopeless.mono hsub h

/-- A consumer stays as it is while its tasks stay in flight and nothing that was noted is forgotten. -/
theorem Sound.of_site (h : Sound s c) (hinflight : ∀ j ∈ c.jobs, j.delivery.task ∈ s'.queue.inflight)
    (hhandled : s.handled ⊆ s'.handled) : Sound s' c where
  serials := h.serials
  recent := h.recent
  inflight := hinflight
  tasks := h.tasks
  resting := h.resting
  settling j hj st hst := (h.settling j hj st hst).mono hhandled

theorem quiet_sound {draw} {e : Event} (h : Sound s c) (he : Quiet e) (next : c.step draw e = some c') : Sound s c' := by
  cases e with
  | recovered | dequeued _ | handled _ _ | settled _ => cases he
  | stop =>
    simp only [Consumer.step] at next
    split at next
    · cases next
      exact h.sublist (.refl _) rfl (by simp)
    · cases next
      exact h.sublist (.refl _) rfl (by simp)
    · cases next
  | place =>
    simp only [Consumer.step] at next
    split at next
    · cases next
      exact h.sublist (.refl _) rfl (by simp)
    · cases next
  | waited =>
    simp only [Consumer.step] at next
    split at next
    · cases next
      exact h.sublist (.refl _) rfl (by simp)
    · cases next
  | broken serial =>
    simp only [Consumer.step] at next
    split at next
    · cases next
      exact h.dropJob serial
    · cases next
  | cancelled serial =>
    simp only [Consumer.step] at next
    split at next
    · cases next
      exact h.dropJob serial
    · cases next
  | joined serial =>
    simp only [Consumer.step] at next
    split at next
    · cases next
      exact h.sublist (.refl _) rfl h.resting
    · cases next
  | drained =>
    simp only [Consumer.step] at next
    split at next
    · next hdone =>
      cases next
      exact h.sublist (.refl _) rfl fun _ => Consumer.jobs_of_left hdone.2
    · cases next
  | graceOver =>
    simp only [Consumer.step] at next
    split at next
    · cases next
      exact h.sublist (.refl _) rfl (by simp)
    · cases next

/-- A consumer that asked for tasks left over had no jobs, and has none. -/
theorem recovered_sound {draw} (h : Sound s c) (next : c.step draw .recovered = some c') :
    c'.jobs = [] ∧ Sound s c' := by
  simp only [Consumer.step] at next
  split at next
  · next hstarting =>
    cases next
    have hnone := h.resting (.inl hstarting)
    exact ⟨hnone, h.sublist (.refl _) rfl fun _ => hnone⟩
  · cases next

theorem waiting_sound {draw} {answer : Dequeued} (h : Sound s c) (hno : ∀ d, answer ≠ .task d)
    (next : c.step draw (.dequeued answer) = some c') : Sound s c' := by
  simp only [Consumer.step] at next
  split at next
  · cases next
  · cases answer with
    | task d => exact absurd rfl (hno d)
    | empty | failed =>
      cases next
      exact h.sublist (.refl _) rfl (by simp)

/-- A task that was handed out becomes a job under a new number. -/
theorem started_sound {draw} {d : Delivery} (h : Sound s c) (hinflight : d.task ∈ s.queue.inflight)
    (hnew : ∀ j ∈ c.jobs, j.delivery.task.id ≠ d.task.id) (next : c.step draw (.dequeued (.task d)) = some c') :
    Sound s c' := by
  simp only [Consumer.step] at next
  split at next
  · cases next
  · cases next
    refine ⟨?_, ?_, ?_, ?_, by simp, ?_⟩
    · simp only [List.map_append, List.map_cons, List.map_nil]
      rw [List.nodup_append]
      refine ⟨h.serials, by simp, fun a ha b hb => ?_⟩
      obtain ⟨j, hj, rfl⟩ := List.mem_map.1 ha
      have hlt := h.recent j hj
      rw [List.mem_singleton.1 hb]
      omega
    · intro j hj
      rcases List.mem_append.1 hj with hj | hj
      · exact Nat.lt_succ_of_lt (h.recent j hj)
      · rw [List.mem_singleton.1 hj]
        exact Nat.lt_succ_self _
    · intro j hj
      rcases List.mem_append.1 hj with hj | hj
      · exact h.inflight j hj
      · rw [List.mem_singleton.1 hj]
        exact hinflight
    · simp only [List.map_append, List.map_cons, List.map_nil]
      rw [List.nodup_append]
      refine ⟨h.tasks, by simp, fun a ha b hb => ?_⟩
      obtain ⟨j, hj, rfl⟩ := List.mem_map.1 ha
      rw [List.mem_singleton.1 hb]
      exact hnew j hj
    · intro j hj st hst
      rcases List.mem_append.1 hj with hj | hj
      · exact h.settling j hj st hst
      · rw [List.mem_singleton.1 hj] at hst
        cases hst

/-- What becomes of a task is what its handler's result calls for. -/
theorem warranted_settlement {handled : List Handled} (config : ConsumerConfig) (draw) (t : Task)
    {result : Except TaskFailure Unit} (h : ⟨t, result, config.maxRetries⟩ ∈ handled) :
    Warranted handled t (config.settlement draw t result) := by
  match result with
  | .ok () => exact ⟨_, h⟩
  | .error (.fatal reason) => exact .inl ⟨reason, _, h⟩
  | .error (.retry reason) =>
    simp only [ConsumerConfig.settlement]
    split
    · trivial
    · exact .inr ⟨reason, _, h, by omega⟩

theorem job?_some {serial : Nat} {j : Job} (h : c.job? serial = some j) : j ∈ c.jobs ∧ j.serial = serial :=
  ⟨List.mem_of_find?_eq_some h, by simpa using List.find?_some h⟩

/-- Only the job that was handled is in another stage then. -/
theorem handled_sound {draw} {j : Job} {result : Except TaskFailure Unit} (h : Sound s c)
    (job : c.job? j.serial = some j) (hresult : ⟨j.delivery.task, result, c.config.maxRetries⟩ ∈ s.handled)
    (next : c.step draw (.handled j.serial result) = some c') : Sound s c' := by
  obtain ⟨serial, d, stage⟩ := j
  simp only [Consumer.step, job] at next
  cases stage with
  | settling st => cases next
  | handling =>
    cases next
    have hserial : (fun k : Job => k.serial) ∘ (fun k => if k.serial = serial then
        { k with stage := Consumer.Stage.settling (c.config.settlement draw d.task result) } else k) = (·.serial) := by
      funext k
      simp only [Function.comp_def]
      split <;> rfl
    have htask : (fun k : Job => k.delivery.task.id) ∘ (fun k => if k.serial = serial then
        { k with stage := Consumer.Stage.settling (c.config.settlement draw d.task result) } else k) =
          (·.delivery.task.id) := by
      funext k
      simp only [Function.comp_def]
      split <;> rfl
    refine ⟨?_, ?_, ?_, ?_, fun hp => ?_, ?_⟩
    · simpa only [Consumer.setStage, List.map_map, hserial] using h.serials
    · intro k hk
      obtain ⟨k', hk', rfl⟩ := List.mem_map.1 hk
      have := h.recent k' hk'
      split <;> exact this
    · intro k hk
      obtain ⟨k', hk', rfl⟩ := List.mem_map.1 hk
      have := h.inflight k' hk'
      split <;> exact this
    · simpa only [Consumer.setStage, List.map_map, htask] using h.tasks
    · simp [Consumer.setStage, h.resting hp]
    · intro k hk st hst
      obtain ⟨k', hk', rfl⟩ := List.mem_map.1 hk
      split at hst
      · next hk'serial =>
        have hsame : k' = ⟨serial, d, .handling⟩ :=
          List.inj_on_of_nodup_map h.serials hk' (job?_some job).1 hk'serial
        cases hst
        rw [if_pos hk'serial, hsame]
        exact warranted_settlement c.config draw d.task hresult
      · next hne =>
        rw [if_neg hne]
        exact h.settling k' hk' st hst

theorem settled_next {draw} {serial : Nat} (next : c.step draw (.settled serial) = some c') :
    c' = c.dropJob serial := by
  simp only [Consumer.step] at next
  split at next
  · cases next
    rfl
  · cases next

end

/-! ## Steps -/

section

variable {s s' : Site}

/-- A step that leaves every task on the queue on it. -/
theorem Invariant.requeue (h : Invariant s) {q : MemoryQueue} {consumer : Option Consumer}
    (htasks : (q.tasks.map bare).Perm (s.queue.tasks.map bare)) (hdead : ∀ l ∈ q.dead, Hopeless s.handled l.task)
    (hsound : ∀ c, consumer = some c → Sound { s with queue := q, consumer } c) :
    Invariant { s with queue := q, consumer } where
  conserved := by
    refine List.Perm.trans ?_ h.conserved
    simp only [List.map_append]
    exact htasks.append_right _
  distinct := h.distinct
  sound := hsound
  acknowledged := h.acknowledged
  dead := hdead

theorem Invariant.enqueue (h : Invariant s) {t : Task} (fresh : t.id ∉ s.enqueued.map (·.id)) :
    Invariant { s with queue := s.queue.enqueue t, enqueued := t :: s.enqueued } where
  conserved := by
    have hperm := ((MemoryQueue.perm_enqueue s.queue t).append_right s.acknowledged).map bare
    exact hperm.trans (h.conserved.cons (bare t))
  distinct := List.nodup_cons.2 ⟨fresh, h.distinct⟩
  sound c hc := (h.sound c hc).of_site (h.sound c hc).inflight (List.Subset.refl _)
  acknowledged := h.acknowledged
  dead := h.dead

theorem Invariant.dequeue (h : Invariant s) {c c' : Consumer} {draw} (now : Time) (running : s.consumer = some c)
    (next : c.step draw (.dequeued (.ofAnswer (.ok (s.queue.dequeue now).2))) = some c') :
    Invariant { s with consumer := some c', queue := (s.queue.dequeue now).1 } := by
  have hsound := h.sound c running
  have hperm := (MemoryQueue.perm_dequeue h.queue_ids now).map bare
  rcases MemoryQueue.dequeue_cases s.queue now with ⟨-, hq⟩ | ⟨t, r, hpending, hq⟩
  · rw [hq] at hperm next ⊢
    refine h.requeue hperm h.dead fun c'' hc => ?_
    cases hc
    have hsound' := waiting_sound hsound (fun d hd => by cases hd) next
    exact hsound'.of_site hsound'.inflight (List.Subset.refl _)
  · rw [hq] at hperm next ⊢
    refine h.requeue hperm h.dead fun c'' hc => ?_
    cases hc
    have hinflight := MemoryQueue.inflight_dequeue h.queue_ids hpending
    refine started_sound (d := ⟨t, t.id.text⟩) (hsound.of_site (fun j hj => ?_) (List.Subset.refl _)) ?_ ?_ next
    · simp only [hinflight]
      exact List.mem_append_left _ (hsound.inflight j hj)
    · simp
    · intro j hj he
      exact MemoryQueue.notMem_inflight h.queue_ids hpending (he ▸ List.mem_map_of_mem (hsound.inflight j hj))

/-- The jobs that are left keep their tasks in flight when one of them is released. -/
theorem Sound.released {c : Consumer} {j : Job} (h : Sound s c) (hj : j ∈ c.jobs)
    (hinflight : s'.queue.inflight = (s.queue.release j.delivery.task.id).inflight) (hhandled : s'.handled = s.handled) :
    Sound s' (c.dropJob j.serial) := by
  refine (h.dropJob j.serial).of_site (fun k hk => ?_) (hhandled ▸ List.Subset.refl _)
  obtain ⟨hk, hserial⟩ := List.mem_filter.1 hk
  rw [hinflight]
  refine MemoryQueue.mem_release (h.inflight k hk) fun hid => ?_
  rw [List.inj_on_of_nodup_map h.tasks hk hj hid] at hserial
  simp at hserial

theorem Invariant.settle (h : Invariant s) {c c' : Consumer} {draw} {j : Job} {st : Settlement} (now : Time)
    (clock : Calendar.Moment) (running : s.consumer = some c) (job : c.job? j.serial = some j)
    (stage : j.stage = .settling st) (next : c.step draw (.settled j.serial) = some c') :
    Invariant { s.settle now clock j.delivery st with consumer := some c' } := by
  have hsound := h.sound c running
  obtain ⟨hj, -⟩ := job?_some job
  have hinflight := hsound.inflight j hj
  have hwarranted := hsound.settling j hj st stage
  rw [settled_next next]
  cases st with
  | ack =>
    refine ⟨?_, h.distinct, fun c'' hc => ?_, fun t ht => ?_, h.dead⟩
    · refine List.Perm.trans (List.Perm.map _ ?_) h.conserved
      exact List.perm_middle.trans ((MemoryQueue.perm_ack h.queue_ids hinflight).symm.append_right _)
    · cases hc
      exact hsound.released hj rfl rfl
    · rcases List.mem_cons.1 ht with rfl | ht
      · exact hwarranted
      · exact h.acknowledged t ht
  | retry wait =>
    refine h.requeue ?_ h.dead fun c'' hc => ?_
    · have hnext : bare j.delivery.task.next = bare j.delivery.task := by
        simp only [bare, Task.next_eq, Task.withAttempts_withAttempts]
      refine ((MemoryQueue.perm_retry s.queue j.delivery now wait).map bare).trans ?_
      refine List.Perm.trans ?_ ((MemoryQueue.perm_release h.queue_ids hinflight).map bare).symm
      rw [List.map_cons, List.map_cons, hnext]
    · cases hc
      exact hsound.released hj rfl rfl
  | deadLetter reason =>
    refine h.requeue ?_ (fun l hl => ?_) fun c'' hc => ?_
    · exact (MemoryQueue.perm_deadLetter h.queue_ids hinflight reason clock).map bare
    · rcases List.mem_append.1 hl with hl | hl
      · exact h.dead l hl
      · rw [List.mem_singleton.1 hl]
        exact hwarranted
    · cases hc
      exact hsound.released hj rfl rfl

theorem Invariant.handle (h : Invariant s) {c c' : Consumer} {draw} {j : Job} (result : Except TaskFailure Unit)
    (running : s.consumer = some c) (job : c.job? j.serial = some j)
    (next : c.step draw (.handled j.serial result) = some c') :
    Invariant
      { s with consumer := some c', handled := ⟨j.delivery.task, result, c.config.maxRetries⟩ :: s.handled } where
  conserved := h.conserved
  distinct := h.distinct
  sound c'' hc := by
    cases hc
    have hsound := h.sound c running
    exact handled_sound (hsound.of_site hsound.inflight (List.subset_cons_self _ _)) job List.mem_cons_self next
  acknowledged t ht := by
    obtain ⟨m, h⟩ := h.acknowledged t ht
    exact ⟨m, List.mem_cons_of_mem _ h⟩
  dead l hl := (h.dead l hl).mono (List.subset_cons_self _ _)

theorem Invariant.step (h : Invariant s) (hstep : Step s s') : Invariant s' := by
  cases hstep with
  | enqueue fresh => exact h.enqueue fresh
  | @shuffle inflight perm =>
    have hperm : ({ s.queue with inflight } : MemoryQueue).tasks.Perm s.queue.tasks :=
      ((perm.append_right _).append_left _).append_left _
    refine h.requeue (hperm.map bare) h.dead fun c hc => (h.sound c hc).of_site (fun j hj => ?_) (List.Subset.refl _)
    exact perm.mem_iff.2 ((h.sound c hc).inflight j hj)
  | start config places free =>
    refine h.requeue (.refl _) h.dead fun c hc => ?_
    cases hc
    exact ⟨by simp, by simp, by simp, by simp, fun _ => rfl, by simp⟩
  | quiet draw running he next =>
    refine h.requeue (.refl _) h.dead fun c hc => ?_
    cases hc
    have hsound := quiet_sound (h.sound _ running) he next
    exact hsound.of_site hsound.inflight (List.Subset.refl _)
  | recover draw running next =>
    obtain ⟨hnone, hsound⟩ := recovered_sound (h.sound _ running) next
    refine h.requeue ((MemoryQueue.perm_recover s.queue).map bare) h.dead fun c hc => ?_
    cases hc
    exact hsound.of_site (fun j hj => by simp [hnone] at hj) (List.Subset.refl _)
  | recoverFails draw running next =>
    obtain ⟨-, hsound⟩ := recovered_sound (h.sound _ running) next
    refine h.requeue (.refl _) h.dead fun c hc => ?_
    cases hc
    exact hsound.of_site hsound.inflight (List.Subset.refl _)
  | dequeue draw now running next => exact h.dequeue now running next
  | dequeueFails draw e running next =>
    have hsound := waiting_sound (h.sound _ running) (fun d hd => by cases hd) next
    refine h.requeue (.refl _) h.dead fun c hc => ?_
    cases hc
    exact hsound.of_site hsound.inflight (List.Subset.refl _)
  | handle draw result running job next => exact h.handle result running job next
  | settle draw now clock running job stage next => exact h.settle now clock running job stage next
  | settleFails draw running job next =>
    rw [settled_next next]
    have hsound := (h.sound _ running).dropJob
    refine h.requeue (.refl _) h.dead fun c hc => ?_
    cases hc
    exact (hsound _).of_site (hsound _).inflight (List.Subset.refl _)

end

theorem Reachable.invariant {s : Site} (h : Reachable s) : Invariant s := by
  induction h with
  | start => exact ⟨.nil, .nil, by simp, by simp, by simp⟩
  | step _ hstep ih => exact ih.step hstep

/-! ## One place -/

def Place.all : List Place := [.pending, .scheduled, .inflight, .dead, .acknowledged]

theorem Place.mem_all (p : Place) : p ∈ all := by
  cases p <;> simp [all]

/-- The tasks with an identifier at a place. -/
def Site.found (s : Site) (p : Place) (id : Uuid) : List Task := (s.at_ p).filter fun t => t.id = id

theorem tasks_places (s : Site) : s.queue.tasks ++ s.acknowledged = Place.all.flatMap s.at_ := by
  simp only [Place.all, MemoryQueue.tasks, Site.at_, List.flatMap_cons, List.flatMap_nil, List.append_assoc,
    List.append_nil]

theorem filter_id_eq {l : List Task} (hids : (l.map (·.id)).Nodup) {t : Task} (ht : t ∈ l) :
    (l.filter fun u => u.id = t.id) = [t] := by
  have hperm := (MemoryQueue.perm_filter_id hids ht).filter fun u => u.id = t.id
  simp only [List.filter_cons, decide_true, if_true, List.filter_filter] at hperm
  refine List.perm_singleton.1 (hperm.trans ?_)
  simp

section

variable {s : Site} {u v : Task} {p p' : Place}

/-- Each task at a place is one that was put on the queue, but for its count. -/
theorem Invariant.mem_enqueued (h : Invariant s) (hu : u ∈ s.at_ p) : u.id ∈ s.enqueued.map (·.id) := by
  have hmem : u ∈ s.queue.tasks ++ s.acknowledged := by
    rw [tasks_places]
    exact List.mem_flatMap.2 ⟨p, p.mem_all, hu⟩
  obtain ⟨t, ht, hbare⟩ := List.mem_map.1 (h.conserved.subset (List.mem_map_of_mem (f := bare) hmem))
  exact List.mem_map.2 ⟨t, ht, congrArg (·.id) hbare⟩

theorem Invariant.nodup_ids_at (h : Invariant s) (p : Place) : ((s.at_ p).map (·.id)).Nodup := by
  have hids := h.ids
  rw [tasks_places, List.map_flatMap, List.nodup_flatMap] at hids
  exact hids.1 p p.mem_all

/-- Two tasks of one identifier are one. -/
theorem Invariant.eq_of_id (h : Invariant s) (hu : u ∈ s.at_ p) (hv : v ∈ s.at_ p') (hid : u.id = v.id) :
    p = p' ∧ u = v := by
  have hids := h.ids
  rw [tasks_places, List.map_flatMap, List.nodup_flatMap] at hids
  have : Std.Symm (Function.onFun List.Disjoint fun p => (s.at_ p).map (·.id)) := ⟨fun _ _ h _ ha hb => h hb ha⟩
  by_cases hp : p = p'
  · subst hp
    exact ⟨rfl, List.inj_on_of_nodup_map (h.nodup_ids_at p) hu hv hid⟩
  · have hapart := hids.2.forall p.mem_all p'.mem_all hp
    exact (hapart (List.mem_map_of_mem hu) (hid ▸ List.mem_map_of_mem hv)).elim

end

theorem Invariant.found {s : Site} (h : Invariant s) {t : Task} (ht : t ∈ s.enqueued) :
    ∃ p n, s.found p t.id = [t.withAttempts n] ∧ ∀ p', p' ≠ p → s.found p' t.id = [] := by
  -- the task is somewhere, but for its count
  obtain ⟨u, hu, hbare⟩ := List.mem_map.1 (h.conserved.symm.subset (List.mem_map_of_mem (f := bare) ht))
  have hid : u.id = t.id := congrArg (·.id) hbare
  rw [tasks_places] at hu
  obtain ⟨p, hp, hu⟩ := List.mem_flatMap.1 hu
  refine ⟨p, u.attempts, ?_, fun p' hp' => ?_⟩
  · rw [← eq_withAttempts hbare, ← hid]
    exact filter_id_eq (h.nodup_ids_at p) hu
  · rw [Site.found, List.filter_eq_nil_iff]
    intro v hv hvid
    exact hp' (h.eq_of_id hv hu ((of_decide_eq_true hvid).trans hid.symm)).1

/-- **No task is lost or doubled.** Every task that was put on the queue is in exactly
one place and there once; what is acknowledged was handled well; and what is dead was
given up by its handler, for good or when it had been tried often enough. -/
theorem conserved_and_warranted {s : Site} (h : Reachable s) :
    (∀ t ∈ s.enqueued, ∃ p n, s.found p t.id = [t.withAttempts n] ∧ ∀ p', p' ≠ p → s.found p' t.id = []) ∧
    (∀ t ∈ s.acknowledged, ∃ m, ⟨t, .ok (), m⟩ ∈ s.handled) ∧
    (∀ l ∈ s.queue.dead,
      (∃ reason m, ⟨l.task, .error (.fatal reason), m⟩ ∈ s.handled) ∨
        ∃ reason m, ⟨l.task, .error (.retry reason), m⟩ ∈ s.handled ∧ m ≤ l.task.attempts) :=
  ⟨fun _ => h.invariant.found, h.invariant.acknowledged, h.invariant.dead⟩

/-- A task whose handler gives it up. -/
def sampleTask : Task := { id := ⟨7⟩, kind := Task.messageKind, payload := "a", enqueuedAt := .epoch }

theorem conserved_and_warranted_dead :
    ∃ s, Reachable s ∧ s.enqueued = [sampleTask] ∧ s.found .dead ⟨7⟩ = [sampleTask] ∧
      ∃ p n, s.found p ⟨7⟩ = [sampleTask.withAttempts n] ∧ ∀ p', p' ≠ p → s.found p' ⟨7⟩ = [] := by
  have run := Reachable.start
  replace run := run.step (.enqueue (t := sampleTask) (by simp))
  replace run := run.step (.start {} (by decide) fun _ h => by cases h)
  replace run := run.step (.recover (fun a _ => a) rfl rfl)
  replace run := run.step (.quiet (fun a _ => a) (e := .place) rfl trivial rfl)
  replace run := run.step (.dequeue (fun a _ => a) 0 rfl rfl)
  replace run := run.step (.handle (fun a _ => a) (j := ⟨0, ⟨sampleTask, sampleTask.id.text⟩, .handling⟩)
    (.error (.fatal "no")) rfl rfl rfl)
  replace run := run.step (.settle (fun a _ => a)
    (j := ⟨0, ⟨sampleTask, sampleTask.id.text⟩, .settling (.deadLetter "no")⟩) 0 .epoch rfl rfl rfl rfl)
  exact ⟨_, run, rfl, rfl, (conserved_and_warranted run).1 sampleTask (List.mem_singleton_self _)⟩

end Courier.Consumption
