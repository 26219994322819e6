import Mathlib.Data.List.Nodup
import Mathlib.Data.List.Perm.Subperm
import Courier.Proofs.Queue.Memory
import Courier.Proofs.Queue.Task
/-
The order in which the queue in memory hands tasks out, over any course of calls at times
that do not go back.

What was done is kept as a history, and all that is said of the order is read off the
history alone: which tasks came into the line, one after the other, and which are still put
aside. The queue is then tied to it by two equations: what came into the line is what was
handed out and what waits, and what is put aside is what the history says. First in, first
out is the first of them seen through a filter.
-/

namespace Courier.MemoryQueue

open Calendar (Moment)

/-! ## Histories -/

/-- What was done on a queue. -/
inductive Deed
  | enqueued (t : Task)
  | dequeued (found : Option Delivery)
  | acked (d : Delivery)
  | retried (d : Delivery) (wait : Time)
  | givenUp (d : Delivery) (reason : String)
  /-- The tasks in flight were put back, in this order. -/
  | recovered (ts : List Task)

/-- What a queue does at a time. In which order tasks in flight are put back is left open. -/
inductive Does (q : MemoryQueue) (now : Time) : Deed → MemoryQueue → Prop
  | enqueue (t : Task) : Does q now (.enqueued t) (q.enqueue t)
  | dequeue : Does q now (.dequeued (q.dequeue now).2) (q.dequeue now).1
  | ack (d : Delivery) : Does q now (.acked d) (q.ack d)
  | retry (d : Delivery) (wait : Time) : Does q now (.retried d wait) (q.retry d now wait)
  | deadLetter (d : Delivery) (reason : String) (at_ : Moment) :
    Does q now (.givenUp d reason) (q.deadLetter d reason at_)
  | recover {ts : List Task} (h : ts.Perm q.inflight) :
    Does q now (.recovered ts) { q with pending := q.pending ++ ts, inflight := [] }

/-- What was done, each deed with its time, the latest first. -/
abbrev History := List (Time × Deed)

/-- Every call does such a thing, but the one that only asks how much there is. -/
theorem exists_does (q : MemoryQueue) (now : Time) (clock : Moment) {c : QueueCall} (hc : c ≠ .stats) :
    ∃ deed, Does q now deed (q.answer now clock c).1 := by
  cases c with
  | enqueue t => exact ⟨_, .enqueue t⟩
  | dequeue => exact ⟨_, .dequeue⟩
  | ack d => exact ⟨_, .ack d⟩
  | retry d wait => exact ⟨_, .retry d wait⟩
  | deadLetter d reason => exact ⟨_, .deadLetter d reason clock⟩
  | recover => exact ⟨_, .recover (.refl q.inflight)⟩
  | stats => exact absurd rfl hc

/-- Whether a time is not before the latest deed. -/
def History.Until (past : History) (now : Time) : Prop := ∀ e ∈ past.head?, e.1 ≤ now

/-- What was done from the empty queue on, at times that do not go back, and the queue it led to. -/
inductive Leads : History → MemoryQueue → Prop
  | empty : Leads [] {}
  | step {past : History} {q q' : MemoryQueue} {now : Time} {deed : Deed} (h : Leads past q) (hnow : past.Until now)
    (hdoes : Does q now deed q') : Leads ((now, deed) :: past) q'

/-- A task that was put aside at a time, for a wait. -/
structure Retry where
  at_ : Time
  wait : Time
  delivery : Delivery
  deriving DecidableEq

namespace Retry

def due (r : Retry) : Time := r.at_ + r.wait

/-- The task as it is tried again. -/
def task (r : Retry) : Task := r.delivery.task.next

def entry (r : Retry) : Time × Task := (r.due, r.task)

end Retry

/-- A task that came into the line. -/
inductive Arrival
  | new (t : Task)
  | again (r : Retry)
  | back (t : Task)

namespace Arrival

def task : Arrival → Task
  | new t | back t => t
  | again r => r.task

def retry? : Arrival → Option Retry
  | again r => some r
  | new _ | back _ => none

end Arrival

/-! ## What a history says -/

namespace Deed

/-- The task that a deed puts on the queue. -/
def puts : Deed → List Task
  | enqueued t => [t]
  | dequeued _ | acked _ | retried _ _ | givenUp _ _ | recovered _ => []

/-- The tasks in flight that a deed puts back. -/
def putsBack : Deed → List Task
  | recovered ts => ts
  | enqueued _ | dequeued _ | acked _ | retried _ _ | givenUp _ _ => []

/-- The delivery that a deed hands out. -/
def hands (now : Time) : Deed → List (Time × Delivery)
  | dequeued found => found.toList.map fun d => (now, d)
  | enqueued _ | acked _ | retried _ _ | givenUp _ _ | recovered _ => []

/-- The task that a deed puts aside. -/
def setsAside (now : Time) : Deed → List Retry
  | retried d wait => [⟨now, wait, d⟩]
  | enqueued _ | dequeued _ | acked _ | givenUp _ _ | recovered _ => []

/-- The tasks that wait after a deed, of those that waited before; when a task is asked for, the ones
that are due wait no longer. -/
def keeps (now : Time) (waiting : List Retry) : Deed → List Retry
  | dequeued _ => waiting.filter (now < ·.due)
  | enqueued _ | acked _ | retried _ _ | givenUp _ _ | recovered _ => waiting

/-- What comes into the line; when a task is asked for, those of the waiting tasks that are due. -/
def brings (now : Time) (waiting : List Retry) : Deed → List Arrival
  | enqueued t => [.new t]
  | dequeued _ => (waiting.filter (·.due ≤ now)).map .again
  | recovered ts => ts.map .back
  | acked _ | retried _ _ | givenUp _ _ => []

end Deed

namespace History

/-- The tasks that were put on the queue, the first one first. -/
def enqueued : History → List Task
  | [] => []
  | (_, deed) :: past => enqueued past ++ deed.puts

/-- The tasks in flight that were put back. -/
def recovered : History → List Task
  | [] => []
  | (_, deed) :: past => recovered past ++ deed.putsBack

/-- The deliveries that were handed out, with their times. -/
def handed : History → List (Time × Delivery)
  | [] => []
  | (now, deed) :: past => handed past ++ deed.hands now

/-- The tasks that were put aside, in that order. -/
def retries : History → List Retry
  | [] => []
  | (now, deed) :: past => retries past ++ deed.setsAside now

/-- Those of them that were not due yet when a task was last asked for. -/
def waiting : History → List Retry
  | [] => []
  | (now, deed) :: past => deed.keeps now (waiting past) ++ deed.setsAside now

/-- What came into the line, in that order. -/
def arrivals : History → List Arrival
  | [] => []
  | (now, deed) :: past => arrivals past ++ deed.brings now (waiting past)

/-- Whether a task was never put aside and never put back out of flight. -/
def Untouched (past : History) (t : Task) : Prop :=
  (∀ r ∈ past.retries, r.delivery.task.id ≠ t.id) ∧ ∀ u ∈ past.recovered, u.id ≠ t.id

instance (past : History) : DecidablePred past.Untouched := fun _ => inferInstanceAs (Decidable (_ ∧ _))

end History

variable {past : History} {q q' : MemoryQueue} {now : Time} {deed : Deed}

/-! ## The queue and its history -/

/-- What ties a queue to its history. -/
structure Told (past : History) (q : MemoryQueue) : Prop where
  aside : q.scheduled = past.waiting.map Retry.entry
  line : past.arrivals.map Arrival.task = past.handed.map (·.2.task) ++ q.pending

theorem filter_entries (rs : List Retry) (p : Time → Bool) :
    (rs.map Retry.entry).filter (fun e => p e.1) = (rs.filter fun r => p r.due).map Retry.entry := by
  rw [List.filter_map]
  rfl

/-- The tasks that are due come into the line, the others stay aside. -/
theorem Told.promote (h : Told past q) (now : Time) :
    (q.promote now).scheduled = (past.waiting.filter (now < ·.due)).map Retry.entry ∧
      (q.promote now).pending = q.pending ++ (past.waiting.filter (·.due ≤ now)).map Retry.task := by
  simp only [MemoryQueue.promote, h.aside]
  constructor
  · rw [filter_entries _ fun due => !decide (due ≤ now)]
    simp only [← Nat.not_le, decide_not]
  · rw [filter_entries _ fun due => decide (due ≤ now), List.map_map]
    rfl

/-- What a deed does to the line and to the tasks that are put aside. -/
theorem Told.does (h : Told past q) (hdoes : Does q now deed q') :
    q'.scheduled = (deed.keeps now past.waiting ++ deed.setsAside now).map Retry.entry ∧
      q.pending ++ (deed.brings now past.waiting).map Arrival.task = (deed.hands now).map (·.2.task) ++ q'.pending := by
  cases hdoes with
  | enqueue t => exact ⟨by rw [Deed.setsAside, List.append_nil]; exact h.aside, rfl⟩
  | ack d | deadLetter d _ _ =>
    refine ⟨?_, List.append_nil _⟩
    rw [Deed.setsAside, List.append_nil]
    exact h.aside
  | retry d wait =>
    refine ⟨?_, List.append_nil _⟩
    rw [List.map_append, Deed.keeps, ← h.aside]
    rfl
  | @recover ts hts =>
    have hback : (ts.map Arrival.back).map Arrival.task = ts := by
      rw [List.map_map]
      exact List.map_id ts
    refine ⟨?_, by rw [Deed.brings, hback]; rfl⟩
    rw [Deed.setsAside, List.append_nil]
    exact h.aside
  | dequeue =>
    obtain ⟨haside, hpending⟩ := h.promote now
    have hagain : q.pending ++ ((past.waiting.filter (·.due ≤ now)).map Arrival.again).map Arrival.task =
        (q.promote now).pending := by
      rw [hpending, List.map_map]
      rfl
    rw [Deed.setsAside, List.append_nil, Deed.brings, hagain]
    rcases dequeue_cases q now with ⟨hempty, hq⟩ | ⟨t, r, hr, hq⟩
    · rw [hq]
      exact ⟨haside, rfl⟩
    · rw [hq]
      exact ⟨haside, hr⟩

/-- Every queue is as its history says. -/
theorem Leads.told (h : Leads past q) : Told past q := by
  induction h with
  | empty => exact ⟨rfl, rfl⟩
  | step _ _ hdoes ih =>
    obtain ⟨haside, hline⟩ := ih.does hdoes
    refine ⟨haside, ?_⟩
    rw [History.arrivals, History.handed, List.map_append, List.map_append, ih.line, List.append_assoc, hline,
      List.append_assoc]

/-! ## Tasks that are put aside -/

theorem History.Until.trans {before : Time} (h : past.Until before) (hnow : before ≤ now) : past.Until now :=
  fun e he => Nat.le_trans (h e he) hnow

/-- The tasks that are not due at a time yet all wait, whenever they were put aside. -/
theorem Leads.filter_waiting (h : Leads past q) (hnow : past.Until now) :
    past.waiting.filter (now < ·.due) = past.retries.filter (now < ·.due) := by
  induction h generalizing now with
  | empty => rfl
  | @step past q q' before deed _ hbefore hdoes ih =>
    have hle : before ≤ now := hnow _ rfl
    have hkeeps : (deed.keeps before past.waiting).filter (now < ·.due) = past.waiting.filter (now < ·.due) := by
      cases deed with
      | dequeued found =>
        -- what is not due now was not due then
        rw [Deed.keeps, List.filter_filter]
        refine List.filter_congr fun r _ => ?_
        simp only [Bool.and_eq_left_iff_imp, decide_eq_true_eq]
        exact Nat.lt_of_le_of_lt hle
      | enqueued _ | acked _ | retried _ _ | givenUp _ _ | recovered _ => rfl
    rw [History.waiting, History.retries, List.filter_append, List.filter_append, hkeeps, ih (hbefore.trans hle)]

/-- What came into the line again was due. -/
theorem Leads.due_of_arrived (h : Leads past q) (hnow : past.Until now) {r : Retry} (hr : .again r ∈ past.arrivals) :
    r.due ≤ now := by
  induction h generalizing now with
  | empty => cases hr
  | @step past q q' before deed _ hbefore hdoes ih =>
    have hle : before ≤ now := hnow _ rfl
    rcases List.mem_append.1 hr with hr | hr
    · exact ih (hbefore.trans hle) hr
    cases deed with
    | dequeued found =>
      simp only [Deed.brings, List.mem_map, List.mem_filter, Arrival.again.injEq, exists_eq_right, decide_eq_true_eq] at hr
      exact Nat.le_trans hr.2 hle
    | enqueued _ | acked _ | retried _ _ | givenUp _ _ | recovered _ => simp [Deed.brings] at hr

theorem perm_filter_due (rs : List Retry) (now : Time) :
    rs.Perm (rs.filter (now < ·.due) ++ rs.filter (·.due ≤ now)) := by
  have h := List.filter_append_perm (fun r : Retry => decide (now < r.due)) rs
  simp only [← decide_not, Nat.not_lt] at h
  exact h.symm

/-- A deed leaves each waiting task waiting or brings it into the line. -/
theorem perm_keeps (deed : Deed) (now : Time) (waiting : List Retry) :
    waiting.Perm (deed.keeps now waiting ++ (deed.brings now waiting).filterMap Arrival.retry?) := by
  cases deed with
  | dequeued found =>
    rw [Deed.brings, List.filterMap_map]
    have hdue : (waiting.filter (·.due ≤ now)).filterMap (Arrival.retry? ∘ Arrival.again) = waiting.filter (·.due ≤ now) :=
      List.filterMap_some
    rw [hdue]
    exact perm_filter_due waiting now
  | recovered ts =>
    have hback : (ts.map Arrival.back).filterMap Arrival.retry? = [] := by
      rw [List.filterMap_map]
      exact List.filterMap_eq_nil_iff.2 fun _ _ => rfl
    rw [Deed.brings, hback, List.append_nil]
    exact .refl _
  | enqueued _ | acked _ | retried _ _ | givenUp _ _ =>
    exact List.Perm.of_eq (List.append_nil _).symm

/-- The tasks that wait are in the order in which they were put aside. -/
theorem waiting_sublist (past : History) : past.waiting.Sublist past.retries := by
  induction past with
  | nil => exact .refl _
  | cons e past ih =>
    obtain ⟨now, deed⟩ := e
    refine List.Sublist.append_right (List.Sublist.trans ?_ ih) _
    cases deed with
    | dequeued found => exact List.filter_sublist
    | enqueued _ | acked _ | retried _ _ | givenUp _ _ | recovered _ => exact .refl _

/-- Each task that was put aside waits or came into the line, once. -/
theorem perm_retries (past : History) :
    past.retries.Perm (past.waiting ++ past.arrivals.filterMap Arrival.retry?) := by
  induction past with
  | nil => exact .refl _
  | cons e past ih =>
    obtain ⟨now, deed⟩ := e
    refine List.perm_iff_count.2 fun r => ?_
    have hpast := ih.count_eq r
    have hkeeps := (perm_keeps deed now (History.waiting past)).count_eq r
    simp only [History.retries, History.waiting, History.arrivals, List.filterMap_append, List.count_append] at hpast hkeeps ⊢
    omega

/-! ## First in, first out -/

/-- Of the tasks that some property tells from those that were put aside or put back, the line is
made of the ones that were put on the queue. -/
theorem filter_arrivals {p : Task → Bool} (hretries : ∀ r ∈ past.retries, p r.task = false)
    (hrecovered : ∀ t ∈ past.recovered, p t = false) :
    (past.arrivals.map Arrival.task).filter p = past.enqueued.filter p := by
  induction past with
  | nil => rfl
  | cons e past ih =>
    obtain ⟨now, deed⟩ := e
    have hpast := ih (fun r hr => hretries r (List.mem_append_left _ hr))
      fun t ht => hrecovered t (List.mem_append_left _ ht)
    have hbrings : ((deed.brings now (History.waiting past)).map Arrival.task).filter p = deed.puts.filter p := by
      cases deed with
      | enqueued _ | acked _ | retried _ _ | givenUp _ _ => rfl
      | dequeued found =>
        refine List.filter_eq_nil_iff.2 fun t ht => ?_
        simp only [Deed.brings, List.map_map, List.mem_map, List.mem_filter] at ht
        obtain ⟨r, ⟨hr, -⟩, rfl⟩ := ht
        simpa [Arrival.task] using hretries r (List.mem_append_left _ ((waiting_sublist past).subset hr))
      | recovered ts =>
        refine List.filter_eq_nil_iff.2 fun t ht => ?_
        simp only [Deed.brings, List.map_map, List.mem_map] at ht
        obtain ⟨u, hu, rfl⟩ := ht
        simpa [Arrival.task] using hrecovered u (List.mem_append_right _ hu)
    rw [History.arrivals, History.enqueued, List.map_append, List.filter_append, List.filter_append, hpast, hbrings]

/-- **First in, first out**: the tasks that were never put aside and never put back are handed out in
the order in which they were put on the queue. -/
theorem Leads.prefix_enqueued (h : Leads past q) :
    (past.handed.map (·.2.task)).filter past.Untouched <+: past.enqueued.filter past.Untouched := by
  have harrivals : (past.arrivals.map Arrival.task).filter past.Untouched = past.enqueued.filter past.Untouched :=
    filter_arrivals (fun r hr => decide_eq_false fun hu => hu.1 r hr rfl)
      fun t ht => decide_eq_false fun hu => hu.2 t ht rfl
  rw [← harrivals, h.told.line, List.filter_append]
  exact List.prefix_append _ _

/-! ## Times at which tasks are handed out -/

theorem time_of_hands {at_ : Time} {d : Delivery} (h : (at_, d) ∈ deed.hands now) : at_ = now := by
  cases deed with
  | dequeued found =>
    simp only [Deed.hands, List.mem_map, Prod.mk.injEq] at h
    obtain ⟨_, -, hnow, -⟩ := h
    exact hnow.symm
  | enqueued _ | acked _ | retried _ _ | givenUp _ _ | recovered _ => cases h

/-- What is handed out was due, if it came into the line again. -/
theorem Leads.due_of_handed (h : Leads past q) {i : Nat} {d : Delivery} {r : Retry} {at_ : Time}
    (hd : past.handed[i]? = some (at_, d)) (hr : past.arrivals[i]? = some (.again r)) : r.due ≤ at_ := by
  induction h with
  | empty => cases hd
  | @step past q q' now deed hleads hbefore hdoes ih =>
    have hlength : past.handed.length ≤ past.arrivals.length := by
      have hline := congrArg List.length hleads.told.line
      rw [List.length_append, List.length_map, List.length_map] at hline
      omega
    by_cases hi : i < past.handed.length
    · rw [History.handed, List.getElem?_append_left hi] at hd
      rw [History.arrivals, List.getElem?_append_left (by omega)] at hr
      exact ih hd hr
    · rw [History.handed, List.getElem?_append_right (by omega)] at hd
      obtain rfl := time_of_hands (List.mem_of_getElem? hd)
      refine (hleads.step hbefore hdoes).due_of_arrived ?_ (List.mem_of_getElem? hr)
      rintro _ ⟨⟩
      exact Nat.le_refl _

/-- Deliveries are handed out in the order in which tasks came into the line. -/
theorem Leads.arrived_of_handed (h : Leads past q) {i : Nat} {at_ : Time} {d : Delivery}
    (hd : past.handed[i]? = some (at_, d)) : ∃ a, past.arrivals[i]? = some a ∧ a.task = d.task := by
  have hline := congrArg (·[i]?) h.told.line
  have hi : i < (past.handed.map (·.2.task)).length := by
    rw [List.length_map]
    exact (List.getElem?_eq_some_iff.1 hd).1
  simp only [List.getElem?_append_left hi, List.getElem?_map, hd, Option.map_some] at hline
  exact Option.map_eq_some_iff.1 hline

/-- What a queue does when a task is asked for: the tasks that are due come into the line behind those
that wait there, and the first task of the line is handed out. -/
structure Serves (past : History) (q : MemoryQueue) (now : Time) : Prop where
  aside : (q.dequeue now).1.scheduled = (past.retries.filter (now < ·.due)).map Retry.entry
  found : (q.dequeue now).2 = (q.pending ++ (past.waiting.filter (·.due ≤ now)).map Retry.task).head?.map
    fun t => ⟨t, t.id.text⟩
  line : (q.dequeue now).1.pending = (q.pending ++ (past.waiting.filter (·.due ≤ now)).map Retry.task).tail

theorem Leads.serves (h : Leads past q) (hnow : past.Until now) : Serves past q now := by
  obtain ⟨haside, hpending⟩ := h.told.promote now
  rw [h.filter_waiting hnow] at haside
  rcases dequeue_cases q now with ⟨hempty, hq⟩ | ⟨t, r, hr, hq⟩
  · rw [hempty] at hpending
    refine ⟨by rw [hq]; exact haside, by rw [hq, ← hpending]; rfl, by rw [hq, ← hpending]; exact hempty⟩
  · rw [hr] at hpending
    exact ⟨by rw [hq]; exact haside, by rw [hq, ← hpending]; rfl, by rw [hq, ← hpending]; rfl⟩

/-! ## Identifiers -/

/-- What clients do that know what is theirs: a new task has a new identifier, and a delivery is
settled while its task is in flight. -/
def Deed.Fair (past : History) (q : MemoryQueue) : Deed → Prop
  | enqueued t => t.id ∉ past.enqueued.map (·.id)
  | acked d | retried d _ | givenUp d _ => d.task ∈ q.inflight
  | dequeued _ | recovered _ => True

/-- Whether all deeds were such. -/
def History.Fair (past : History) : Prop :=
  ∀ later now deed earlier q, past = later ++ (now, deed) :: earlier → Leads earlier q → deed.Fair earlier q

theorem History.Fair.earlier (later : History) (h : History.Fair (later ++ past)) : past.Fair :=
  fun later' now deed earlier q hsplit => h (later ++ later') now deed earlier q (by rw [hsplit, List.append_assoc])

theorem History.Fair.cons (h : past.Fair) (hdeed : ∀ q, Leads past q → deed.Fair past q) :
    History.Fair ((now, deed) :: past) := by
  intro later now' deed' earlier q hsplit hleads
  cases later with
  | nil =>
    obtain ⟨hhead, rfl⟩ := List.cons.inj hsplit
    cases hhead
    exact hdeed q hleads
  | cons e later =>
    obtain ⟨-, rfl⟩ := List.cons.inj hsplit
    exact h later now' deed' earlier q rfl hleads

/-- A deed adds at most the identifier of a new task. -/
theorem subperm_does (hids : (q.tasks.map (·.id)).Nodup) (hfair : deed.Fair past q) (hdoes : Does q now deed q') :
    (q'.tasks.map (·.id)).Subperm ((deed.puts ++ q.tasks).map (·.id)) := by
  cases hdoes with
  | enqueue t => exact ((perm_enqueue q t).map _).subperm
  | dequeue => exact ((perm_dequeue hids now).map _).subperm
  | ack d => exact ((List.sublist_cons_self ..).map _).subperm.trans ((perm_ack hids hfair).symm.map _).subperm
  | retry d wait =>
    have hnext : (d.task.next :: (q.release d.task.id).tasks).map (·.id) =
        (d.task :: (q.release d.task.id).tasks).map (·.id) := rfl
    have hretry := (perm_retry q d now wait).map (·.id)
    rw [hnext] at hretry
    exact (hretry.trans ((perm_release hids hfair).symm.map _)).subperm
  | deadLetter d reason at_ => exact ((perm_deadLetter hids hfair reason at_).map _).subperm
  | @recover ts hts =>
    have hback : (MemoryQueue.tasks { q with pending := q.pending ++ ts, inflight := [] }).Perm q.recover.1.tasks :=
      (hts.append_left _).append_right _
    exact ((hback.trans (perm_recover q)).map _).subperm

/-- No two tasks on the queue have the same identifier. -/
theorem Leads.ids (h : Leads past q) (hfair : past.Fair) :
    (q.tasks.map (·.id)).Nodup ∧ q.tasks.map (·.id) ⊆ past.enqueued.map (·.id) := by
  induction h with
  | empty => exact ⟨List.nodup_nil, List.nil_subset _⟩
  | @step past q q' now deed hleads hbefore hdoes ih =>
    obtain ⟨hnodup, hsub⟩ := ih (hfair.earlier [_])
    have hdeed := hfair [] now deed past q rfl hleads
    have hsubperm := subperm_does hnodup hdeed hdoes
    have hnew : ((deed.puts ++ q.tasks).map (·.id)).Nodup := by
      cases deed with
      | enqueued t => exact List.nodup_cons.2 ⟨fun ht => hdeed (hsub ht), hnodup⟩
      | dequeued _ | acked _ | retried _ _ | givenUp _ _ | recovered _ => exact hnodup
    refine ⟨?_, fun id hid => ?_⟩
    · obtain ⟨ids, hperm, hsublist⟩ := hsubperm
      exact hperm.nodup_iff.1 (hnew.sublist hsublist)
    · have hid := hsubperm.subset hid
      rw [List.map_append] at hid
      rw [History.enqueued, List.map_append]
      rcases List.mem_append.1 hid with hid | hid
      · exact List.mem_append_right _ hid
      · exact List.mem_append_left _ (hsub hid)

/-! ## Waiting for a time -/

/-- A task is put aside until a time, or it came into the line when that time had passed. -/
def Awaits (q : MemoryQueue) (due : Time) (t : Task) (now : Time) : Prop :=
  (due, t) ∈ q.scheduled ∨ t ∈ q.pending ∧ due ≤ now

section

variable {before due : Time} {t : Task}

theorem Awaits.mono (h : q.Awaits due t before) (hnow : before ≤ now) : q.Awaits due t now :=
  h.imp_right fun ⟨ht, hdue⟩ => ⟨ht, Nat.le_trans hdue hnow⟩

theorem Awaits.promote (h : q.Awaits due t now) : (q.promote now).Awaits due t now := by
  rcases h with h | ⟨h, hdue⟩
  · by_cases hdue : due ≤ now
    · exact .inr ⟨mem_pending_promote.2 (.inr ⟨due, hdue, h⟩), hdue⟩
    · exact .inl (mem_scheduled_promote.2 ⟨h, Nat.not_le.1 hdue⟩)
  · exact .inr ⟨mem_pending_promote.2 (.inl h), hdue⟩

/-- A task waits on until it is handed out. -/
theorem Awaits.does (h : q.Awaits due t now) (hdoes : Does q now deed q') (hother : ∀ e ∈ deed.hands now, e.2.task.id ≠ t.id) :
    q'.Awaits due t now := by
  cases hdoes with
  | enqueue u | recover hts => exact h.imp_right fun ⟨ht, hdue⟩ => ⟨List.mem_append_left _ ht, hdue⟩
  | ack d | deadLetter d reason at_ => exact h
  | retry d wait => exact h.imp_left (List.mem_append_left _)
  | dequeue =>
    rcases dequeue_cases q now with ⟨-, hq⟩ | ⟨u, r, hr, hq⟩
    · rw [hq]
      exact h.promote
    · rw [hq] at hother ⊢
      have hne : u.id ≠ t.id := hother (now, ⟨u, u.id.text⟩) (List.mem_singleton.2 rfl)
      refine h.promote.imp_right fun ⟨ht, hdue⟩ => ⟨?_, hdue⟩
      rw [hr] at ht
      exact (List.mem_cons.1 ht).resolve_left fun heq => hne (heq ▸ rfl)

/-- When a task with the same identifier is handed out, it is this one, and its time has passed. -/
theorem Awaits.handed (h : q.Awaits due t now) (hids : (q.tasks.map (·.id)).Nodup) {d : Delivery}
    (hd : (q.dequeue now).2 = some d) (hid : d.task.id = t.id) : due ≤ now ∧ d.task = t := by
  have hmem := mem_of_dequeued hd
  have hnodup := ((perm_promote q now).map (·.id)).nodup_iff.2 hids
  rw [tasks, List.map_append, List.nodup_append] at hnodup
  obtain ⟨hpending, -, hapart⟩ := hnodup
  rcases h.promote with ht | ⟨ht, hdue⟩
  · refine absurd hid (hapart _ (List.mem_map_of_mem hmem) _ ?_)
    exact List.mem_map_of_mem (List.mem_append_left _ (List.mem_map_of_mem (f := Prod.snd) ht))
  · exact ⟨hdue, List.inj_on_of_nodup_map hpending hmem ht hid⟩

end

theorem Does.found {found : Option Delivery} (h : Does q now (.dequeued found) q') : q.dequeue now = (q', found) := by
  cases h
  rfl

/-- What was handed out last is in flight. -/
theorem Leads.inflight {d : Delivery} (h : Leads ((now, .dequeued (some d)) :: past) q) : d.task ∈ q.inflight := by
  cases h with
  | @step _ q₀ _ _ _ _ _ hdoes =>
    have hfound := hdoes.found
    rcases dequeue_cases q₀ now with ⟨-, hq⟩ | ⟨t, r, -, hq⟩
    · rw [hfound] at hq
      cases hq
    · rw [hfound] at hq
      cases hq
      exact List.mem_append_right _ (List.mem_singleton.2 rfl)

theorem Leads.earlier {later : History} (h : Leads (later ++ past) q) : ∃ q₀, Leads past q₀ := by
  induction later generalizing q with
  | nil => exact ⟨q, h⟩
  | cons e later ih =>
    cases h with
    | step h _ _ => exact ih h

/-- A task that was put aside waits for its time until it is handed out. -/
theorem Leads.awaits {between : History} {at_ wait : Time} {d : Delivery}
    (h : Leads (between ++ (at_, .retried d wait) :: past) q) (hother : ∀ e ∈ between.handed, e.2.task.id ≠ d.task.id)
    (hnow : History.Until (between ++ (at_, .retried d wait) :: past) now) : q.Awaits (at_ + wait) d.task.next now := by
  induction between generalizing q now with
  | nil =>
    cases h with
    | step h _ hdoes =>
      cases hdoes with
      | retry => exact .inl (List.mem_append_right _ (List.mem_singleton.2 rfl))
  | cons e between ih =>
    cases h with
    | @step _ q₀ _ before deed h hbefore hdoes =>
      have hpast := ih h (fun e he => hother e (List.mem_append_left _ he)) hbefore
      exact (hpast.does hdoes fun e he => hother e (List.mem_append_right _ he)).mono (hnow _ rfl)

/-- **No task is handed out before its time**, if clients only settle what is theirs: the next time
that a task is handed out after it was put aside, the wait has passed, and the attempt is the next. -/
theorem Leads.handed_in_time {later between : History} {at_ wait : Time} {d u : Delivery}
    (h : Leads (later ++ (now, .dequeued (some u)) :: (between ++ (at_, .retried d wait) :: past)) q)
    (hfair : History.Fair (later ++ (now, .dequeued (some u)) :: (between ++ (at_, .retried d wait) :: past)))
    (hother : ∀ e ∈ between.handed, e.2.task.id ≠ d.task.id) (hid : u.task.id = d.task.id) :
    at_ + wait ≤ now ∧ u.task = d.task.next := by
  obtain ⟨q₁, h₁⟩ := h.earlier
  have hfair₁ := (hfair.earlier later).earlier [_]
  cases h₁ with
  | @step _ q₀ _ _ _ h₀ hbefore hdoes =>
    have hawaits := h₀.awaits hother hbefore
    exact hawaits.handed (h₀.ids hfair₁).1 (by rw [hdoes.found]) hid

/-! ## Order and time -/

/-- What holds of the order in which a queue hands tasks out. -/
structure InOrder (past : History) (q : MemoryQueue) : Prop where
  told : Told past q
  /-- When a task is asked for, what is due comes behind the line, and the head of the line is handed out. -/
  serves : ∀ now, past.Until now → Serves past q now
  ordered : past.waiting.Sublist past.retries
  /-- No task that was put aside is passed over, and none comes into the line twice. -/
  once : past.retries.Perm (past.waiting ++ past.arrivals.filterMap Arrival.retry?)
  /-- Tasks that were never put aside and never put back are handed out as they were put on the queue. -/
  first : (past.handed.map (·.2.task)).filter past.Untouched <+: past.enqueued.filter past.Untouched
  /-- Each delivery is the task that came into the line in its place; if that was put aside, its time has
  passed, and it is the next attempt. -/
  timely : ∀ (i : Nat) (at_ : Time) (d : Delivery), past.handed[i]? = some (at_, d) →
    ∃ a : Arrival, past.arrivals[i]? = some a ∧ a.task = d.task ∧ ∀ r, a = .again r →
      r.due ≤ at_ ∧
      (r.delivery.task.attempts < Task.maxAttempts → d.task = r.delivery.task.withAttempts (r.delivery.task.attempts + 1))
  /-- If clients only settle what is theirs, a task that was put aside is not handed out in any other way. -/
  patient : past.Fair → ∀ (later : History) (now : Time) (u : Delivery) (between : History) (at_ : Time) (d : Delivery)
    (wait : Time) (earlier : History),
    past = later ++ (now, .dequeued (some u)) :: (between ++ (at_, .retried d wait) :: earlier) →
    u.task.id = d.task.id → (∀ e ∈ History.handed between, e.2.task.id ≠ d.task.id) →
    at_ + wait ≤ now ∧ u.task = d.task.next

/-- **Tasks are handed out in order and in time**, whatever was done on the queue at times that do not go back. -/
theorem Leads.inOrder (h : Leads past q) : InOrder past q where
  told := h.told
  serves _ := h.serves
  ordered := waiting_sublist past
  once := perm_retries past
  first := h.prefix_enqueued
  timely i at_ d hd := by
    obtain ⟨a, ha, htask⟩ := h.arrived_of_handed hd
    refine ⟨a, ha, htask, ?_⟩
    rintro r rfl
    refine ⟨h.due_of_handed hd ha, fun hattempts => ?_⟩
    rw [← Task.next_of_lt hattempts]
    exact htask.symm
  patient hfair later now u between at_ d wait earlier hsplit hid hother := by
    subst hsplit
    exact h.handed_in_time hfair hother hid

/-- Two tasks. -/
def elderTask : Task := { id := ⟨1⟩, kind := Task.messageKind, payload := "a", enqueuedAt := .epoch }

def youngerTask : Task := { elderTask with id := ⟨2⟩, payload := "b" }

/-- Both are put on the queue, and the elder one is handed out and put aside. -/
def sampleBeginning : History :=
  [(1, .retried ⟨elderTask, elderTask.id.text⟩ 10),
    (1, .dequeued (some ⟨elderTask, elderTask.id.text⟩)),
    (0, .enqueued youngerTask),
    (0, .enqueued elderTask)]

/-- It is handed out again after the younger one, when its time has passed. -/
def sampleHistory : History :=
  (12, .dequeued (some ⟨elderTask.next, elderTask.next.id.text⟩)) :: (5, .dequeued none) ::
    (2, .dequeued (some ⟨youngerTask, youngerTask.id.text⟩)) :: sampleBeginning

theorem sampleBeginning_fair : sampleBeginning.Fair := by
  have hempty : History.Fair [] := by
    intro later now deed earlier q hsplit
    simp at hsplit
  have helder : History.Fair [(0, .enqueued elderTask)] := hempty.cons fun _ _ => List.not_mem_nil
  have hyounger : History.Fair [(0, .enqueued youngerTask), (0, .enqueued elderTask)] :=
    helder.cons fun _ _ => show youngerTask.id ∉ [elderTask.id] by decide
  have hhanded : History.Fair sampleBeginning.tail := hyounger.cons fun _ _ => trivial
  exact hhanded.cons fun _ h => h.inflight

theorem sampleHistory_fair : sampleHistory.Fair := by
  refine History.Fair.cons (History.Fair.cons (History.Fair.cons sampleBeginning_fair ?_) ?_) ?_
  · exact fun _ _ => trivial
  · exact fun _ _ => trivial
  · exact fun _ _ => trivial

/-- So the elder one is handed out again in time, and in no other way. -/
theorem inOrder_sample : sampleHistory.Fair ∧ ∃ q, Leads sampleHistory q ∧ InOrder sampleHistory q := by
  have hnow {e : Time × Deed} {past : History} {now : Time} (h : e.1 ≤ now) : History.Until (e :: past) now := by
    rintro _ ⟨⟩
    exact h
  have hleads : Leads sampleHistory _ :=
    .step (.step (.step (.step (.step (.step (.step .empty nofun (.enqueue _)) (hnow (by decide)) (.enqueue _))
      (hnow (by decide)) .dequeue) (hnow (by decide)) (.retry _ _)) (hnow (by decide)) .dequeue) (hnow (by decide)) .dequeue)
      (hnow (by decide)) .dequeue
  exact ⟨sampleHistory_fair, _, hleads, hleads.inOrder⟩

end Courier.MemoryQueue
