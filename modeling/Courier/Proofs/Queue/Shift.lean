import Courier.Proofs.Queue.Conservation
import Courier.Proofs.Queue.Story
/-
A consumer at work on a queue in memory, from when it has put back the tasks left over. The
queue does whatever it is asked, and the clock does not go back. Beside the queue it is noted
which tasks came to the consumer, at what times it asked for a task, and what befell each.

The invariant is that the story of a task, which is what was noted of it, tells where the task
is: what happens next to a task of that identifier is then what may follow in the story.
-/

namespace Courier.Consumption

open Calendar (Moment)
open Number (Binary64)
open Consumer (Job Event)

structure Shift where
  site : Site
  now : Time
  /-- The tasks that came to the consumer: left over when it began, and put on the queue since. -/
  came : List Task
  /-- When the queue was asked for a task, the latest first. -/
  asked : List Time := []
  log : List Entry := []

/-- The events that end no job and ask nothing of the queue. -/
def Calm : Event → Prop
  | .stop | .place | .waited | .joined _ | .drained => True
  | .recovered | .dequeued _ | .handled _ _ | .broken _ | .settled _ | .cancelled _ | .graceOver => False

theorem Calm.quiet {e : Event} (h : Calm e) : Quiet e := by
  cases e with
  | stop | place | waited | joined _ | drained => trivial
  | recovered | dequeued _ | handled _ _ | broken _ | settled _ | cancelled _ | graceOver => cases h

/-- The delivery as it is noted. -/
def Entry.handed (now : Time) (d : Delivery) : Entry := ⟨d.task, .handed now⟩

namespace Shift

/-- What befell the task of an identifier. -/
def story (w : Shift) (id : Uuid) : List Entry := w.log.filter fun e => e.task.id = id

/-- A consumer has started on a queue on which anything was done before, and put back the tasks left over. -/
inductive Begins (config : ConsumerConfig) : Shift → Prop
  | intro {s : Site} (h : Reachable s) (free : s.isFree) (places : 1 ≤ config.concurrency) (now : Time) :
    Begins config
      { site := { s with consumer := some { config, phase := .ready }, queue := s.queue.recover.1 }
        now
        came := s.queue.recover.1.pending ++ s.queue.recover.1.scheduled.map (·.2) }

/-- One step. The consumer may be told to stop, but none of its jobs is aborted. -/
inductive Step (w : Shift) : Shift → Prop
  | wait {now : Time} (later : w.now ≤ now) : Step w { w with now }
  | enqueue {t : Task} (fresh : t.id ∉ w.site.enqueued.map (·.id)) :
    Step w
      { w with
        site := { w.site with queue := w.site.queue.enqueue t, enqueued := t :: w.site.enqueued }
        came := t :: w.came }
  | shuffle {inflight : List Task} (perm : inflight.Perm w.site.queue.inflight) :
    Step w { w with site := { w.site with queue := { w.site.queue with inflight } } }
  | calm {c c' : Consumer} (draw) {e : Event} (running : w.site.consumer = some c) (he : Calm e)
    (next : c.step draw e = some c') : Step w { w with site := { w.site with consumer := some c' } }
  | dequeue {c c' : Consumer} (draw) (running : w.site.consumer = some c)
    (next : c.step draw (.dequeued (.ofAnswer (.ok (w.site.queue.dequeue w.now).2))) = some c') :
    Step w
      { w with
        site := { w.site with consumer := some c', queue := (w.site.queue.dequeue w.now).1 }
        asked := w.now :: w.asked
        log := (w.site.queue.dequeue w.now).2.toList.map (.handed w.now) ++ w.log }
  | handle {c c' : Consumer} (draw) {j : Job} (result : Except TaskFailure Unit) (running : w.site.consumer = some c)
    (job : c.job? j.serial = some j) (next : c.step draw (.handled j.serial result) = some c') :
    Step w
      { w with
        site :=
          { w.site with
            consumer := some c', handled := ⟨j.delivery.task, result, c.config.maxRetries⟩ :: w.site.handled }
        log := ⟨j.delivery.task, .returned result⟩ :: w.log }
  | breakDown {c c' : Consumer} (draw) {j : Job} (running : w.site.consumer = some c)
    (job : c.job? j.serial = some j) (next : c.step draw (.broken j.serial) = some c') :
    Step w { w with site := { w.site with consumer := some c' }, log := ⟨j.delivery.task, .broke⟩ :: w.log }
  | settle {c c' : Consumer} (draw) {j : Job} {st : Settlement} (clock : Moment) (running : w.site.consumer = some c)
    (job : c.job? j.serial = some j) (stage : j.stage = .settling st)
    (next : c.step draw (.settled j.serial) = some c') :
    Step w
      { w with
        site := { w.site.settle w.now clock j.delivery st with consumer := some c' }
        log := ⟨j.delivery.task, .settled st w.now⟩ :: w.log }

/-! ## Where a task is -/

/-- Whether a task is on the queue and is not handed out before some time. -/
def Waits (w : Shift) (u : Task) (due : Time) : Prop :=
  (u ∈ w.site.queue.pending ∧ due ≤ w.now) ∨ ∃ d, due ≤ d ∧ (d, u) ∈ w.site.queue.scheduled

/-- The deliveries being processed. -/
def jobs (w : Shift) : List Job := (w.site.consumer.map (·.jobs)).getD []

/-- Whether a task is being processed. -/
def Works (w : Shift) (u : Task) (st : Consumer.Stage) : Prop := ∃ j ∈ w.jobs, j.delivery.task = u ∧ j.stage = st

/-- Whether a task was handed out and is processed no more. -/
def Left (w : Shift) (u : Task) : Prop := u ∈ w.site.queue.inflight ∧ ∀ j ∈ w.jobs, j.delivery.task.id ≠ u.id

/-- Whether a task was given up for some reason. -/
def Dead (w : Shift) (u : Task) (reason : String) : Prop := ∃ failedAt, ⟨u, reason, failedAt⟩ ∈ w.site.queue.dead

/-- Where a task is, after what befell it. -/
def Shows (config : ConsumerConfig) (w : Shift) (t : Task) : List Entry → Prop
  | [] => w.Waits t 0
  | ⟨u, .handed _⟩ :: _ => w.Works u .handling
  | ⟨u, .returned result⟩ :: _ => ∃ draw, w.Works u (.settling (config.settlement draw u result))
  | ⟨u, .broke⟩ :: _ => w.Left u
  | ⟨u, .settled .ack _⟩ :: _ => u ∈ w.site.acknowledged
  | ⟨u, .settled (.retry wait) s⟩ :: _ => w.Waits u.next (s + wait)
  | ⟨u, .settled (.deadLetter reason) _⟩ :: _ => w.Dead u reason

end Shift

/-! ## What an event makes of the jobs -/

section

variable {c c' : Consumer} {draw : Binary64 → Binary64 → Binary64}

theorem calm_next {e : Event} (he : Calm e) (next : c.step draw e = some c') : c'.jobs = c.jobs ∧ c'.config = c.config := by
  cases e with
  | recovered | dequeued _ | handled _ _ | broken _ | settled _ | cancelled _ | graceOver => cases he
  | stop | waited =>
    simp only [Consumer.step] at next
    split at next <;> cases next <;> exact ⟨rfl, rfl⟩
  | place | joined _ | drained =>
    simp only [Consumer.step] at next
    split at next <;> cases next
    exact ⟨rfl, rfl⟩

theorem empty_next (next : c.step draw (.dequeued .empty) = some c') : c'.jobs = c.jobs ∧ c'.config = c.config := by
  simp only [Consumer.step] at next
  split at next <;> cases next
  exact ⟨rfl, rfl⟩

theorem task_next {d : Delivery} (next : c.step draw (.dequeued (.task d)) = some c') :
    c'.jobs = c.jobs ++ [⟨c.report.started, d, .handling⟩] ∧ c'.config = c.config := by
  simp only [Consumer.step] at next
  split at next <;> cases next
  exact ⟨rfl, rfl⟩

theorem handled_next {j : Job} {result : Except TaskFailure Unit} (job : c.job? j.serial = some j)
    (next : c.step draw (.handled j.serial result) = some c') :
    j.stage = .handling ∧ c' = c.setStage j.serial (.settling (c.config.settlement draw j.delivery.task result)) := by
  obtain ⟨serial, d, stage⟩ := j
  simp only [Consumer.step, job] at next
  cases stage with
  | handling =>
    cases next
    exact ⟨rfl, rfl⟩
  | settling st => cases next

theorem broken_next {j : Job} (job : c.job? j.serial = some j) (next : c.step draw (.broken j.serial) = some c') :
    j.stage = .handling ∧ c' = c.dropJob j.serial := by
  obtain ⟨serial, d, stage⟩ := j
  simp only [Consumer.step, job] at next
  cases stage with
  | handling =>
    cases next
    exact ⟨rfl, rfl⟩
  | settling st => cases next

end

/-! ## The invariant -/

namespace Shift

section

variable {config : ConsumerConfig} {w w' : Shift} {t u v : Task} {l : List Entry}

/-- What stands of every task that came to the consumer: its story is one, and shows where the task is. -/
def Told (config : ConsumerConfig) (w : Shift) (t : Task) : Prop :=
  Story config t (w.story t.id) ∧ Shows config w t (w.story t.id)

structure Kept (config : ConsumerConfig) (w : Shift) : Prop where
  site : Invariant w.site
  configured : ∀ c, w.site.consumer = some c → c.config = config
  known : ∀ e ∈ w.log, e.task.id ∈ w.site.enqueued.map (·.id)
  told : ∀ t ∈ w.came, Told config w t

theorem mem_story {e : Entry} (h : e ∈ w.story t.id) : e.task.id = t.id := by
  simpa using (List.mem_filter.1 h).2

theorem Waits.at_ {due : Time} (h : w.Waits u due) : ∃ p, (p = .pending ∨ p = .scheduled) ∧ u ∈ w.site.at_ p := by
  rcases h with ⟨h, -⟩ | ⟨d, -, h⟩
  · exact ⟨.pending, .inl rfl, h⟩
  · exact ⟨.scheduled, .inr rfl, List.mem_map_of_mem (f := (·.2)) h⟩

theorem jobs_running {c : Consumer} (running : w.site.consumer = some c) : w.jobs = c.jobs := by
  rw [jobs, running]
  rfl

theorem inflight_of_job (hsite : Invariant w.site) {j : Job} (hj : j ∈ w.jobs) :
    j.delivery.task ∈ w.site.at_ .inflight := by
  cases hc : w.site.consumer with
  | none => simp [jobs, hc] at hj
  | some c => exact (hsite.sound c hc).inflight j (jobs_running hc ▸ hj)

theorem nodup_jobs (hsite : Invariant w.site) :
    (w.jobs.map (·.serial)).Nodup ∧ (w.jobs.map (·.delivery.task.id)).Nodup := by
  cases hc : w.site.consumer with
  | none => simp [jobs, hc]
  | some c =>
    rw [jobs_running hc]
    exact ⟨(hsite.sound c hc).serials, (hsite.sound c hc).tasks⟩

theorem Works.at_ {st : Consumer.Stage} (hsite : Invariant w.site) (h : w.Works u st) : u ∈ w.site.at_ .inflight := by
  obtain ⟨j, hj, rfl, -⟩ := h
  exact inflight_of_job hsite hj

theorem Dead.at_ {reason : String} (h : w.Dead u reason) : u ∈ w.site.at_ .dead := by
  obtain ⟨_, h⟩ := h
  exact List.mem_map_of_mem (f := (·.task)) h

/-- Whether a step leaves a task alone, as far as it is the consumer's: it stays where it is, or is due and put with
those that wait. -/
structure Leaves (w w' : Shift) (u : Task) : Prop where
  now : w.now ≤ w'.now
  pending : u ∈ w.site.queue.pending → u ∈ w'.site.queue.pending
  scheduled : ∀ d, (d, u) ∈ w.site.queue.scheduled →
    (d, u) ∈ w'.site.queue.scheduled ∨ (u ∈ w'.site.queue.pending ∧ d ≤ w'.now)
  inflight : u ∈ w.site.queue.inflight → u ∈ w'.site.queue.inflight
  jobs : ∀ j : Job, j.delivery.task.id = u.id → (j ∈ w'.jobs ↔ j ∈ w.jobs)
  acknowledged : u ∈ w.site.acknowledged → u ∈ w'.site.acknowledged
  dead : w.site.queue.dead ⊆ w'.site.queue.dead

/-- A step that does nothing to the queue. -/
theorem Leaves.of_jobs (hnow : w.now ≤ w'.now) (hqueue : w'.site.queue = w.site.queue)
    (hack : w'.site.acknowledged = w.site.acknowledged)
    (hjobs : ∀ j : Job, j.delivery.task.id = u.id → (j ∈ w'.jobs ↔ j ∈ w.jobs)) : Leaves w w' u where
  now := hnow
  pending hu := hqueue ▸ hu
  scheduled _ hd := .inl (hqueue ▸ hd)
  inflight hu := hqueue ▸ hu
  jobs := hjobs
  acknowledged hu := hack ▸ hu
  dead _ hl := hqueue ▸ hl

theorem Leaves.waits (h : Leaves w w' u) {due : Time} (hw : w.Waits u due) : w'.Waits u due := by
  rcases hw with ⟨hu, hdue⟩ | ⟨d, hdue, hu⟩
  · exact .inl ⟨h.pending hu, Nat.le_trans hdue h.now⟩
  · rcases h.scheduled d hu with hu | ⟨hu, hd⟩
    · exact .inr ⟨d, hdue, hu⟩
    · exact .inl ⟨hu, Nat.le_trans hdue hd⟩

theorem Leaves.works (h : Leaves w w' u) {st : Consumer.Stage} (hw : w.Works u st) : w'.Works u st := by
  obtain ⟨j, hj, rfl, hst⟩ := hw
  exact ⟨j, (h.jobs j rfl).2 hj, rfl, hst⟩

theorem Leaves.left (h : Leaves w w' u) (hw : w.Left u) : w'.Left u :=
  ⟨h.inflight hw.1, fun j hj hid => hw.2 j ((h.jobs j hid).1 hj) hid⟩

theorem Shows.imp (h : Shows config w t l) (hids : ∀ e ∈ l, e.task.id = t.id) (hleaves : ∀ u, u.id = t.id → Leaves w w' u) :
    Shows config w' t l := by
  match l, h with
  | [], h => exact (hleaves t rfl).waits h
  | ⟨u, .handed _⟩ :: _, h => exact (hleaves u (hids _ List.mem_cons_self)).works h
  | ⟨u, .returned _⟩ :: _, h =>
    obtain ⟨draw, h⟩ := h
    exact ⟨draw, (hleaves u (hids _ List.mem_cons_self)).works h⟩
  | ⟨u, .broke⟩ :: _, h => exact (hleaves u (hids _ List.mem_cons_self)).left h
  | ⟨u, .settled .ack _⟩ :: _, h => exact (hleaves u (hids _ List.mem_cons_self)).acknowledged h
  | ⟨u, .settled (.retry _) _⟩ :: _, h =>
    have hid : u.next.id = t.id := hids _ List.mem_cons_self
    exact (hleaves u.next hid).waits h
  | ⟨u, .settled (.deadLetter _) _⟩ :: _, h =>
    obtain ⟨failedAt, h⟩ := h
    exact ⟨failedAt, (hleaves u (hids _ List.mem_cons_self)).dead h⟩

/-- Where a task is that waits for the consumer, in its story. -/
theorem Kept.waiting (h : Kept config w) (ht : t ∈ w.came) {p : Place} (hp : p = .pending ∨ p = .scheduled)
    (hv : v ∈ w.site.at_ p) (hid : v.id = t.id) :
    (w.story t.id = [] ∧ v = t ∧ w.Waits v 0) ∨
      ∃ u wait s rest, w.story t.id = ⟨u, .settled (.retry wait) s⟩ :: rest ∧ v = u.next ∧ w.Waits v (s + wait) := by
  have hshows := (h.told t ht).2
  have hids {e : Entry} (he : e ∈ w.story t.id) : v.id = e.task.id := hid.trans (mem_story he).symm
  -- the task is where its story shows it, and nowhere else
  have elsewhere {u : Task} {q : Place} (hu : u ∈ w.site.at_ q) (he : v.id = u.id) (hq : q ≠ .pending ∧ q ≠ .scheduled) :
      False := by
    obtain ⟨rfl, -⟩ := h.site.eq_of_id hv hu he
    rcases hp with rfl | rfl
    · exact hq.1 rfl
    · exact hq.2 rfl
  have here {u : Task} {due : Time} (hu : w.Waits u due) (he : v.id = u.id) : v = u := by
    obtain ⟨_, -, hu⟩ := hu.at_
    exact (h.site.eq_of_id hv hu he).2
  match hl : w.story t.id, hshows, @hids with
  | [], hshows, _ => exact .inl ⟨rfl, here hshows hid, here hshows hid ▸ hshows⟩
  | ⟨u, .handed _⟩ :: _, hshows, hids => exact (elsewhere (hshows.at_ h.site) (hids List.mem_cons_self) (by decide)).elim
  | ⟨u, .returned _⟩ :: _, hshows, hids =>
    obtain ⟨_, hshows⟩ := hshows
    exact (elsewhere (hshows.at_ h.site) (hids List.mem_cons_self) (by decide)).elim
  | ⟨u, .broke⟩ :: _, hshows, hids =>
    exact (elsewhere (q := .inflight) hshows.1 (hids List.mem_cons_self) (by decide)).elim
  | ⟨u, .settled .ack _⟩ :: _, hshows, hids =>
    exact (elsewhere (q := .acknowledged) hshows (hids List.mem_cons_self) (by decide)).elim
  | ⟨u, .settled (.retry wait) s⟩ :: rest, hshows, hids =>
    have hnext : v = u.next := here hshows (hids List.mem_cons_self)
    exact .inr ⟨u, wait, s, rest, rfl, hnext, hnext ▸ hshows⟩
  | ⟨u, .settled (.deadLetter _) _⟩ :: _, hshows, hids =>
    exact (elsewhere hshows.at_ (hids List.mem_cons_self) (by decide)).elim

/-- Where a task is that the consumer has in hand, in its story. -/
theorem Kept.working (h : Kept config w) (ht : t ∈ w.came) {j : Job} (hj : j ∈ w.jobs) (hid : j.delivery.task.id = t.id) :
    (j.stage = .handling ∧ ∃ s rest, w.story t.id = ⟨j.delivery.task, .handed s⟩ :: rest) ∨
      ∃ draw result rest, j.stage = .settling (config.settlement draw j.delivery.task result) ∧
        w.story t.id = ⟨j.delivery.task, .returned result⟩ :: rest := by
  have hshows := (h.told t ht).2
  have hids {e : Entry} (he : e ∈ w.story t.id) : j.delivery.task.id = e.task.id := hid.trans (mem_story he).symm
  have elsewhere {u : Task} {p : Place} (hu : u ∈ w.site.at_ p) (he : j.delivery.task.id = u.id) (hp : p ≠ .inflight) :
      False := hp (h.site.eq_of_id (inflight_of_job h.site hj) hu he).1.symm
  have here {u : Task} {st : Consumer.Stage} (hu : w.Works u st) (he : j.delivery.task.id = u.id) :
      j.delivery.task = u ∧ j.stage = st := by
    obtain ⟨k, hk, rfl, rfl⟩ := hu
    obtain rfl := List.inj_on_of_nodup_map (nodup_jobs h.site).2 hj hk he
    exact ⟨rfl, rfl⟩
  have waits {u : Task} {due : Time} (hu : w.Waits u due) (he : j.delivery.task.id = u.id) : False := by
    obtain ⟨p, hp, hu⟩ := hu.at_
    exact elsewhere hu he (by rcases hp with rfl | rfl <;> decide)
  match hl : w.story t.id, hshows, @hids with
  | [], hshows, _ => exact (waits hshows hid).elim
  | ⟨u, .handed s⟩ :: rest, hshows, hids =>
    obtain ⟨htask, hstage⟩ := here hshows (hids List.mem_cons_self)
    exact .inl ⟨hstage, s, rest, by rw [htask]⟩
  | ⟨u, .returned result⟩ :: rest, hshows, hids =>
    obtain ⟨draw, hshows⟩ := hshows
    obtain ⟨htask, hstage⟩ := here hshows (hids List.mem_cons_self)
    exact .inr ⟨draw, result, rest, htask ▸ hstage, by rw [htask]⟩
  | ⟨u, .broke⟩ :: _, hshows, hids => exact (hshows.2 j hj (hids List.mem_cons_self)).elim
  | ⟨u, .settled .ack _⟩ :: _, hshows, hids =>
    exact (elsewhere (p := .acknowledged) hshows (hids List.mem_cons_self) (by decide)).elim
  | ⟨u, .settled (.retry _) _⟩ :: _, hshows, hids => exact (waits hshows (hids List.mem_cons_self)).elim
  | ⟨u, .settled (.deadLetter _) _⟩ :: _, hshows, hids =>
    exact (elsewhere hshows.at_ (hids List.mem_cons_self) (by decide)).elim

end

end Shift
end Courier.Consumption
