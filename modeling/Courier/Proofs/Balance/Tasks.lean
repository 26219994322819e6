import Mathlib.Data.List.Forall2
import Mathlib.Algebra.BigOperators.Group.List.Basic
import Mathlib.Algebra.Ring.Nat
import Courier.Proofs.Metrics
import Courier.Proofs.Queue.Crew
import Courier.Proofs.Worker.Record
/-
A consumer whose handler is the worker, and what both count. The worker counts how each task
ended, and the consumer what becomes of it; there is no wait between the two, and so no
thread is aborted there. The worker does not break down; the queue may.

What is counted for tasks is what stands in the logs of the threads and of the worker's
courses, one for each thread. A thread that is not at work has been counted on both sides or
on neither, so the sums over all threads agree when none is at work.
-/

namespace Courier

open Procedure

/-- Whether something is counted for the tasks of a queue. -/
def Count.isWork : Count → Bool
  | .task _ | .queueAction _ => true
  | .request _ _ | .enqueued | .executed _ | .targetError _ | .reconnect => false

/-- How often what becomes of a delivery was counted as some action. -/
def Crew.Thread.actions (action : String) (t : Crew.Thread) : Nat :=
  t.log.countP fun x => x.1 = .count (.queueAction action)

namespace Depot

/-- The worker at the task of one thread: what was asked and answered, and what is left. -/
structure Desk where
  rest : WorkerWork (Except TaskFailure Unit)
  log : Worker.WorkerLog := []

/-- How often the task was counted in some way. -/
def Desk.records (k : TaskRecord) (d : Desk) : Nat := d.log.countP fun x => x.1.record? = some k

end Depot

/-- A consumer with its threads, the worker at the task of each, and the counters. -/
structure Depot where
  crew : Crew
  desks : List Depot.Desk := []
  stats : WorkerStats := {}
  metrics : Metrics := {}

namespace Depot

/-- Whether a task was handled, and what becomes of it is not counted yet. -/
def Halfway (t : Crew.Thread) (d : Desk) : Prop := (∃ r, d.rest = .result r) ∧ ∀ c x, ⟨.count c, x⟩ ∉ t.log

def Between (s : Depot) (n : Nat) : Prop := ∃ t d, s.crew.threads[n]? = some t ∧ s.desks[n]? = some d ∧ Halfway t d

/-- What is counted when the worker asks something. -/
def counted (s : Depot) : WorkerAsk → Depot
  | .record k => { s with stats := s.stats.add k, metrics := s.metrics.increment (.task k.name) }
  | .store _ | .deliver _ _ _ => s

inductive Step (w : Worker) (s : Depot) : Depot → Prop
  | loop {k : Crew} {e : Consumer.Event} (h : Crew.Step s.crew (.loop e) k) : Step w s { s with crew := k }
  | take {k : Crew} {d : Delivery} (h : Crew.Step s.crew (.take d) k) :
    Step w s { s with crew := k, desks := s.desks ++ [{ rest := w.handle d.task }] }
  | ask {k : Crew} {n : Nat} (h : Crew.Step s.crew (.ask n) k) : Step w s { s with crew := k }
  /-- The worker is answered. -/
  | work {n : Nat} {d : Desk} {q : WorkerAsk} {next : q.Answer → WorkerWork (Except TaskFailure Unit)} (a : q.Answer)
    (working : n ∈ s.crew.alive) (handling : s.crew.handles n = true) (desk : s.desks[n]? = some d)
    (rest : d.rest = .ask q next) :
    Step w s { s.counted q with desks := s.desks.set n { rest := next a, log := d.log ++ [⟨q, some a⟩] } }
  | handled {k : Crew} {n : Nat} {task : Task} {r : Except TaskFailure Unit} {d : Desk}
    (h : Crew.Step s.crew (.answer n (.handle task) r) k) (desk : s.desks[n]? = some d) (done : d.rest = .result r) :
    Step w s { s with crew := k }
  | count {k : Crew} {n : Nat} {c : Count} (h : Crew.Step s.crew (.answer n (.count c) ()) k) :
    Step w s { s with crew := k, metrics := s.metrics.increment c }
  | settle {k : Crew} {n : Nat} {c : QueueCall} {a : c.Answer} (h : Crew.Step s.crew (.answer n (.settle c) a) k) :
    Step w s { s with crew := k }
  | finish {k : Crew} {n : Nat} (h : Crew.Step s.crew (.finish n) k) : Step w s { s with crew := k }
  /-- The queue breaks down when it is asked to settle a delivery. -/
  | breakDown {k : Crew} {n : Nat} {t : Crew.Thread} {c : QueueCall} (h : Crew.Step s.crew (.breakDown n) k)
    (thread : s.crew.threads[n]? = some t) (settling : t.open? = some (.settle c)) : Step w s { s with crew := k }
  | abort {k : Crew} {n : Nat} (h : Crew.Step s.crew (.abort n) k) (waits : ¬ s.Between n) : Step w s { s with crew := k }
  /-- Something else is counted in the relay. -/
  | elsewhere {m : Metrics} (h : ∀ c, c.isWork = true → m.count c = s.metrics.count c) : Step w s { s with metrics := m }

/-- The states that are reached from a consumer and counters that are new. -/
inductive Reachable (w : Worker) (config : ConsumerConfig) : Depot → Prop
  | start : Reachable w config { crew := { consumer := { config } } }
  | step {s s' : Depot} (h : Reachable w config s) (hstep : Step w s s') : Reachable w config s'

/-! ## One delivery -/

/-- What a thread and the worker have to do with each other. -/
structure Paired (w : Worker) (t : Crew.Thread) (d : Desk) : Prop where
  course : Comes (w.handle t.delivery.task) d.log d.rest
  /-- What the thread was told is what the worker came to. -/
  told : ∀ r, ⟨.handle t.delivery.task, some r⟩ ∈ t.log → d.rest = .result r

/-- Whether a delivery was counted on both sides alike. -/
structure Even (t : Crew.Thread) (d : Desk) : Prop where
  done : t.actions "ack" = d.records .delivered + d.records .skipped
  failed : t.actions "retry" + t.actions "dead_letter" = d.records .retryable + d.records .fatal
  fatal : d.records .fatal ≤ t.actions "dead_letter"

section

variable {w : Worker} {config : ConsumerConfig} {t : Crew.Thread} {d : Desk}

/-- The worker counts nothing before the task is handled. -/
theorem records_of_waiting (h : Comes (w.handle t.delivery.task) d.log d.rest) {q : WorkerAsk}
    {next : q.Answer → WorkerWork (Except TaskFailure Unit)} (hrest : d.rest = .ask q next) (k : TaskRecord) :
    d.records k = 0 := by
  rw [hrest] at h
  have hrecorded := Worker.handle_recorded h.waiting
  have huncounted : Worker.Uncounted d.log := by
    generalize hl : d.log ++ [⟨q, none⟩] = l at hrecorded
    cases hrecorded with
    | before hl' =>
      subst hl
      exact fun x hx => hl' x (List.mem_append_left _ hx)
    | counting hl' =>
      obtain ⟨rfl, -⟩ := List.append_inj' hl rfl
      exact hl'
  refine List.countP_eq_zero.2 fun x hx => ?_
  simp [huncounted x hx]

/-- The worker counts the task once, as its result tells. -/
theorem records_of_done (h : Comes (w.handle t.delivery.task) d.log d.rest) {r : Except TaskFailure Unit}
    (hrest : d.rest = .result r) :
    ∃ v, r = Worker.reply v ∧ ∀ k, d.records k = if TaskRecord.of v = k then 1 else 0 := by
  rw [hrest] at h
  have hrecorded := Worker.handle_recorded h.done
  generalize hl : d.log = l, hr : some r = y at hrecorded
  cases hrecorded with
  | before | counting => cases hr
  | @after l' v huncounted =>
    cases hr
    refine ⟨v, rfl, fun k => ?_⟩
    have hzero : l'.countP (fun x => x.1.record? = some k) = 0 :=
      List.countP_eq_zero.2 fun x hx => by simp [huncounted x hx]
    rw [Desk.records, hl, List.countP_append, hzero, Nat.zero_add, List.countP_singleton]
    simp [WorkerAsk.record?]

/-- A thread that was not told anything has counted nothing. -/
theorem even_of_untold (hlog : t.log = []) (hrecords : ∀ k, d.records k = 0) : Even t d := by
  have hactions (action : String) : t.actions action = 0 := by simp [Crew.Thread.actions, hlog]
  constructor
  case done => rw [hactions, hrecords, hrecords]
  case failed => rw [hactions, hactions, hrecords, hrecords]
  case fatal => rw [hrecords]; exact Nat.zero_le _

/-- What becomes of a delivery goes by how its task ended. -/
theorem even_of_settlement {v : Except TaskError TaskOutcome} {draw : Number.Binary64 → Number.Binary64 → Number.Binary64}
    {task : Task}
    (hactions : ∀ action, t.actions action = if (config.settlement draw task (Worker.reply v)).action = action then 1 else 0)
    (hrecords : ∀ k, d.records k = if TaskRecord.of v = k then 1 else 0) : Even t d := by
  cases v with
  | ok o =>
    have hack : (config.settlement draw task (Worker.reply (.ok o))).action = "ack" := rfl
    simp only [hack] at hactions
    cases o <;> constructor <;> simp [hactions, hrecords, TaskRecord.of]
  | error e =>
    cases hretry : e.isRetryable with
    | true =>
      have hreply : Worker.reply (.error e) = .error (.retry e.message) := by simp [Worker.reply, TaskError.failure, hretry]
      have hof : TaskRecord.of (.error e) = .retryable := by simp [TaskRecord.of, hretry]
      simp only [hreply, ConsumerConfig.settlement] at hactions
      split at hactions <;> constructor <;> simp [hactions, hrecords, hof, Settlement.action]
    | false =>
      have hreply : Worker.reply (.error e) = .error (.fatal e.message) := by simp [Worker.reply, TaskError.failure, hretry]
      have hof : TaskRecord.of (.error e) = .fatal := by simp [TaskRecord.of, hretry]
      simp only [hreply, ConsumerConfig.settlement] at hactions
      constructor <;> simp [hactions, hrecords, hof, Settlement.action]

/-- A thread that is not halfway was counted on both sides alike. -/
theorem even_of_paired (h : Paired w t d) (hstands : Crew.Stands config t.draw t.delivery t.log t.rest)
    (hnot : ¬ Halfway t d) : Even t d := by
  generalize hlog : t.log = log, hthread : t.rest = rest at hstands
  cases hdesk : d.rest with
  | ask q next =>
    have huntold (r : Except TaskFailure Unit) : ⟨.handle t.delivery.task, some r⟩ ∉ t.log := fun hr => by
      have hresult := h.told r hr
      rw [hdesk] at hresult
      cases hresult
    refine even_of_untold ?_ (records_of_waiting h.course hdesk)
    cases hstands with
    | fresh => exact hlog
    | handled r | counted r | settled r => exact absurd (by simp [hlog]) (huntold r)
  | result r =>
    obtain ⟨v, rfl, hrecords⟩ := records_of_done h.course hdesk
    have htold (r' : Except TaskFailure Unit) (hr' : ⟨.handle t.delivery.task, some r'⟩ ∈ t.log) : r' = Worker.reply v := by
      have hresult := h.told r' hr'
      rw [hdesk] at hresult
      cases hresult
      rfl
    have hcounted : ∃ c x, ⟨.count c, x⟩ ∈ t.log := by
      by_contra hno
      exact hnot ⟨⟨_, hdesk⟩, fun c x hx => hno ⟨c, x, hx⟩⟩
    obtain ⟨c, x, hx⟩ := hcounted
    rw [hlog] at hx
    cases hstands with
    | fresh => cases hx
    | handled r => simp at hx
    | counted r | settled r =>
      obtain rfl := htold r (by simp [hlog])
      have hactions (action : String) : t.actions action =
          if (config.settlement t.draw t.delivery.task (Worker.reply v)).action = action then 1 else 0 := by
        simp [Crew.Thread.actions, hlog, List.countP_cons]
      exact even_of_settlement hactions hrecords

end

/-! ## All deliveries -/

/-- One entry of a list changes, and the sum with it. -/
theorem sum_map_set {α : Type} {l : List α} {n : Nat} {a b : α} (f : α → Nat) (h : l[n]? = some a) :
    ((l.set n b).map f).sum + f a = (l.map f).sum + f b := by
  obtain ⟨hn, rfl⟩ := List.getElem?_eq_some_iff.1 h
  have hset := ((List.set_perm_cons_eraseIdx hn b).map f).sum_nat
  have hold := ((List.getElem_cons_eraseIdx_perm hn).map f).sum_nat
  simp only [List.map_cons, List.sum_cons] at hset hold
  omega

theorem name_injective {k k' : TaskRecord} : k.name = k'.name ↔ k = k' := by
  cases k <;> cases k' <;> simp [TaskRecord.name]

/-- What the worker is to have counted. -/
def tally (desks : List Desk) : WorkerStats :=
  let sum (k : TaskRecord) := (desks.map (Desk.records k)).sum
  ⟨sum .delivered, sum .skipped, sum .retryable + sum .fatal⟩

/-- What the counters have to do with the logs. -/
structure Kept (w : Worker) (config : ConsumerConfig) (s : Depot) : Prop where
  crew : Crew.Reachable config s.crew
  places : s.desks.length = s.crew.threads.length
  pairs : ∀ (n : Nat) (t : Crew.Thread) (d : Desk), s.crew.threads[n]? = some t → s.desks[n]? = some d → Paired w t d
  turns : ∀ n, s.Between n → n ∈ s.crew.alive
  tasks : ∀ k, s.metrics.count (.task k.name) = (s.desks.map (Desk.records k)).sum
  actions : ∀ a, s.metrics.count (.queueAction a) = (s.crew.threads.map (Crew.Thread.actions a)).sum
  stats : s.stats = tally s.desks

section

variable {w : Worker} {config : ConsumerConfig} {s s' : Depot} {k : Crew} {n : Nat} {t t' : Crew.Thread} {d : Desk}

theorem Kept.start : Kept w config { crew := { consumer := { config } } } where
  crew := .start
  places := rfl
  pairs n t d h := by cases h
  turns n := by
    rintro ⟨t, d, h, -⟩
    cases h
  tasks k := rfl
  actions a := rfl
  stats := rfl

/-- The settling of a delivery comes after what becomes of it is counted. -/
theorem counted_of_stands (h : Crew.Stands config t.draw t.delivery t.log t.rest)
    (hlate : t.rest = .result () ∨ ∃ c, t.open? = some (.settle c)) : ∃ c x, ⟨.count c, x⟩ ∈ t.log := by
  obtain ⟨delivery, draw, rest, log, asking⟩ := t
  change Crew.Stands config draw delivery log rest at h
  cases h with
  | fresh | handled =>
    rcases hlate with hrest | ⟨c, hc⟩
    · cases hrest
    · cases asking <;> cases hc
  | counted | settled => exact ⟨_, _, List.mem_cons_of_mem _ List.mem_cons_self⟩

/-- A thread counts nothing but what becomes of its delivery. -/
theorem action_of_stands (h : Crew.Stands config t.draw t.delivery t.log t.rest) {c : Count}
    {next : Unit → Processing Unit} (hrest : t.rest = .ask (.count c) next) : ∃ a, c = .queueAction a := by
  generalize t.rest = rest, t.log = log at h hrest
  cases h with
  | fresh | counted | settled => cases hrest
  | handled r =>
    cases hrest
    exact ⟨_, rfl⟩

namespace Kept

theorem stands (h : Kept w config s) (thread : s.crew.threads[n]? = some t) :
    Crew.Stands config t.draw t.delivery t.log t.rest := Crew.stands_of_comes (h.crew.kept.courses n t thread)

/-- No thread and no counter changes. -/
theorem goesOn (h : Kept w config s) (hcrew : Crew.Reachable config k) (hthreads : k.threads = s.crew.threads)
    (hturns : ∀ n, s.Between n → n ∈ k.alive) : Kept w config { s with crew := k } where
  crew := hcrew
  places := by rw [hthreads, h.places]
  pairs := hthreads ▸ h.pairs
  turns m hm := by
    obtain ⟨t, d, ht, hd, hhalf⟩ := hm
    exact hturns m ⟨t, d, hthreads ▸ ht, hd, hhalf⟩
  tasks := h.tasks
  actions := hthreads ▸ h.actions
  stats := h.stats

/-- A thread is over, and is not between the two counts. -/
theorem drops (h : Kept w config s) {ended aborted : List Nat}
    (hcrew : Crew.Reachable config { s.crew with consumer := s.crew.consumer.dropJob n, ended, aborted })
    (working : n ∈ s.crew.alive) (hnot : ¬ s.Between n) :
    Kept w config { s with crew := { s.crew with consumer := s.crew.consumer.dropJob n, ended, aborted } } := by
  refine h.goesOn hcrew rfl fun m hm => ?_
  have hdrop := Crew.serials_dropJob working h.crew.kept.nodup_alive
  rcases List.mem_cons.1 (hdrop.mem_iff.2 (h.turns m hm)) with rfl | hmem
  · exact absurd hm hnot
  · exact hmem

/-- What becomes of a delivery is counted before a thread can be through, or break down. -/
theorem not_between (h : Kept w config s) (thread : s.crew.threads[n]? = some t)
    (hlate : t.rest = .result () ∨ ∃ c, t.open? = some (.settle c)) : ¬ s.Between n := by
  rintro ⟨t', d, ht', -, hhalf⟩
  obtain rfl := Option.some.inj (thread.symm.trans ht')
  obtain ⟨c, x, hx⟩ := counted_of_stands (h.stands thread) hlate
  exact hhalf.2 c x hx

/-- A thread goes on. -/
theorem threadGoesOn (h : Kept w config s) (hcrew : Crew.Reachable config k) (working : n ∈ s.crew.alive)
    (thread : s.crew.threads[n]? = some t) (hthreads : k.threads = s.crew.threads.set n t') (halive : k.alive = s.crew.alive)
    (hpair : ∀ d, s.desks[n]? = some d → Paired w t d → Paired w t' d) {m : Metrics}
    (htasks : ∀ k : TaskRecord, m.count (.task k.name) = s.metrics.count (.task k.name))
    (hactions : ∀ a, m.count (.queueAction a) + t.actions a = s.metrics.count (.queueAction a) + t'.actions a) :
    Kept w config { s with crew := k, metrics := m } where
  crew := hcrew
  places := by simp only [hthreads, List.length_set, h.places]
  pairs j u d hj hd := by
    simp only [hthreads] at hj
    by_cases hjn : n = j
    · subst hjn
      rw [List.getElem?_set_self (h.crew.kept.lt_of_alive working)] at hj
      obtain rfl := Option.some.inj hj
      exact hpair d hd (h.pairs n t d thread hd)
    · rw [List.getElem?_set_ne hjn] at hj
      exact h.pairs j u d hj hd
  turns j hj := by
    rw [halive]
    by_cases hjn : n = j
    · exact hjn ▸ working
    · obtain ⟨u, d, hu, hd, hhalf⟩ := hj
      simp only [hthreads] at hu
      rw [List.getElem?_set_ne hjn] at hu
      exact h.turns j ⟨u, d, hu, hd, hhalf⟩
  tasks j := (htasks j).trans (h.tasks j)
  actions a := by
    have hsum := sum_map_set (b := t') (Crew.Thread.actions a) thread
    have hbefore := h.actions a
    have hafter := hactions a
    simp only [hthreads]
    omega
  stats := h.stats

/-- A delivery is got. -/
theorem takes (h : Kept w config s) {delivery : Delivery} (hstep : Crew.Step s.crew (.take delivery) k) :
    Kept w config { s with crew := k, desks := s.desks ++ [{ rest := w.handle delivery.task }] } := by
  have hreachable := h.crew.step hstep
  cases hstep with
  | @take c _ draw next =>
    obtain ⟨-, -, hjobs, -, -, -⟩ := Crew.take_next next
    constructor
    case crew => exact hreachable
    case places => simp only [List.length_append, List.length_cons, List.length_nil, h.places]
    case pairs =>
      intro n t d ht hd
      have hplaces := h.places
      rcases Crew.getElem?_concat ht with ht | ⟨hn, rfl⟩
      · rcases Crew.getElem?_concat hd with hd | ⟨hn, rfl⟩
        · exact h.pairs n t d ht hd
        · have hlt := (List.getElem?_eq_some_iff.1 ht).1
          omega
      · rcases Crew.getElem?_concat hd with hd | ⟨-, rfl⟩
        · have hlt := (List.getElem?_eq_some_iff.1 hd).1
          omega
        · exact ⟨.start, fun r hr => by cases hr⟩
    case turns =>
      intro n hn
      have halive : c.jobs.map (·.serial) = s.crew.alive ++ [s.crew.threads.length] := by
        simp only [hjobs, List.map_append, List.map_cons, List.map_nil, h.crew.kept.started, Crew.alive]
      simp only [Crew.alive, halive, List.mem_append, List.mem_singleton]
      obtain ⟨t, d, ht, hd, hhalf⟩ := hn
      rcases Crew.getElem?_concat ht with ht | ⟨hlast, -⟩
      · rcases Crew.getElem?_concat hd with hd | ⟨hlast, -⟩
        · exact .inl (h.turns n ⟨t, d, ht, hd, hhalf⟩)
        · exact .inr (hlast.trans h.places)
      · exact .inr hlast
    case tasks =>
      intro k
      simp only [List.map_append, List.sum_append, h.tasks]
      rfl
    case actions =>
      intro a
      simp only [List.map_append, List.sum_append, h.actions]
      rfl
    case stats =>
      simp only [h.stats, tally, List.map_append, List.sum_append]
      rfl

/-- The worker is answered. -/
theorem works (h : Kept w config s) {q : WorkerAsk} {next : q.Answer → WorkerWork (Except TaskFailure Unit)} (a : q.Answer)
    (working : n ∈ s.crew.alive) (desk : s.desks[n]? = some d) (rest : d.rest = .ask q next) :
    Kept w config { s.counted q with desks := s.desks.set n { rest := next a, log := d.log ++ [⟨q, some a⟩] } } := by
  have hlength := (List.getElem?_eq_some_iff.1 desk).1
  have hrecords (k : TaskRecord) : ({ rest := next a, log := d.log ++ [⟨q, some a⟩] } : Desk).records k =
      d.records k + if q.record? = some k then 1 else 0 := by
    simp [Desk.records, List.countP_append]
  have hsum (k : TaskRecord) := sum_map_set (b := { rest := next a, log := d.log ++ [⟨q, some a⟩] }) (Desk.records k) desk
  simp only [hrecords] at hsum
  constructor
  case crew => cases q <;> exact h.crew
  case places =>
    rw [List.length_set, h.places]
    cases q <;> rfl
  case pairs =>
    intro j t d' ht hd'
    have ht : s.crew.threads[j]? = some t := by cases q <;> exact ht
    by_cases hjn : n = j
    · subst hjn
      rw [List.getElem?_set_self hlength] at hd'
      obtain rfl := Option.some.inj hd'
      have hpair := h.pairs n t d ht desk
      refine ⟨(rest ▸ hpair.course).answered a, fun r hr => ?_⟩
      have hresult := hpair.told r hr
      rw [rest] at hresult
      cases hresult
    · rw [List.getElem?_set_ne hjn] at hd'
      exact h.pairs j t d' ht hd'
  case turns =>
    rintro j ⟨t, d', ht, hd', hhalf⟩
    have ht : s.crew.threads[j]? = some t := by cases q <;> exact ht
    have hmem : j ∈ s.crew.alive := by
      by_cases hjn : n = j
      · exact hjn ▸ working
      · rw [List.getElem?_set_ne hjn] at hd'
        exact h.turns j ⟨t, d', ht, hd', hhalf⟩
    cases q <;> exact hmem
  case tasks =>
    intro k
    have hk := hsum k
    have hbefore := h.tasks k
    cases q with
    | record k' =>
      simp only [counted, Metrics.count_increment, Count.task.injEq, name_injective]
      simp only [WorkerAsk.record?, Option.some.injEq] at hk
      omega
    | store _ | deliver _ _ _ =>
      simp only [counted]
      simp only [WorkerAsk.record?, reduceCtorEq, if_false] at hk
      omega
  case actions =>
    intro action
    cases q with
    | record k' =>
      simp only [counted, Metrics.count_increment, reduceCtorEq, if_false, Nat.add_zero]
      exact h.actions action
    | store _ | deliver _ _ _ => exact h.actions action
  case stats =>
    have hadded (k : TaskRecord) : ((s.desks.set n { rest := next a, log := d.log ++ [⟨q, some a⟩] }).map (Desk.records k)).sum =
        (s.desks.map (Desk.records k)).sum + if q.record? = some k then 1 else 0 := by
      have hk := hsum k
      omega
    simp only [tally, hadded]
    cases q with
    | record k' => cases k' <;> simp [counted, h.stats, tally, WorkerStats.add, WorkerAsk.record?] <;> omega
    | store _ | deliver _ _ _ => simp [counted, h.stats, tally, WorkerAsk.record?]

/-- **One step.** -/
theorem step (h : Kept w config s) (hstep : Step w s s') : Kept w config s' := by
  cases hstep with
  | @loop k e hstep =>
    refine h.goesOn (h.crew.step hstep) ?_ fun n hn => ?_
    · cases hstep
      rfl
    · cases hstep with
      | loop draw he next =>
        simp only [Crew.alive, (Crew.loop_next he next).jobs]
        exact h.turns n hn
  | take hstep => exact h.takes hstep
  | @ask k n hstep =>
    have hcrew := h.crew.step hstep
    cases hstep with
    | ask working thread rest silent =>
      exact h.threadGoesOn (m := s.metrics) hcrew working thread rfl rfl (fun d _ hpair => ⟨hpair.course, hpair.told⟩)
        (fun _ => rfl) fun _ => rfl
  | work a working handling desk rest => exact h.works a working desk rest
  | @handled k n task r d hstep desk done =>
    have hcrew := h.crew.step hstep
    cases hstep with
    | @handled _ t c _ next _ thread rest asking goOn =>
      obtain ⟨working, stage, rfl⟩ := Crew.handled_next goOn
      refine h.threadGoesOn (m := s.metrics) hcrew working thread rfl (Crew.serials_setStage stage) (fun d' hd' hpair => ?_)
        (fun _ => rfl) fun a => ?_
      · refine ⟨hpair.course, fun r' hr' => ?_⟩
        rcases List.mem_append.1 hr' with hr' | hr'
        · exact hpair.told r' hr'
        · have hsame : (⟨.handle t.delivery.task, some r'⟩ : (q : ProcessAsk) × Option q.Answer) = ⟨.handle task, some r⟩ :=
            List.mem_singleton.1 hr'
          cases hsame
          obtain rfl := Option.some.inj (desk.symm.trans hd')
          exact done
      · simp [Crew.Thread.actions, List.countP_append]
    | answer _ _ _ _ _ other => cases other
  | @count k n c hstep =>
    have hcrew := h.crew.step hstep
    cases hstep with
    | @answer _ t _ next _ working thread rest asking other =>
      obtain ⟨action, rfl⟩ := action_of_stands (h.stands thread) rest
      refine h.threadGoesOn hcrew working thread rfl rfl (fun d _ hpair => ?_) (fun k => ?_) fun a => ?_
      · refine ⟨hpair.course, fun r hr => hpair.told r ?_⟩
        simpa using hr
      · simp [Metrics.count_increment]
      · simp only [Crew.Thread.actions, List.countP_append, List.countP_singleton, Metrics.count_increment,
          decide_eq_true_eq, ProcessAsk.count.injEq]
        omega
  | @settle k n c a hstep =>
    have hcrew := h.crew.step hstep
    cases hstep with
    | @answer _ t _ next _ working thread rest asking other =>
      refine h.threadGoesOn (m := s.metrics) hcrew working thread rfl rfl (fun d _ hpair => ?_) (fun _ => rfl) fun a => ?_
      · refine ⟨hpair.course, fun r hr => hpair.told r ?_⟩
        simpa using hr
      · simp [Crew.Thread.actions, List.countP_append]
  | @finish k n hstep =>
    have hcrew := h.crew.step hstep
    cases hstep with
    | finish draw thread rest next =>
      obtain ⟨working, rfl⟩ := Crew.dropped_next (.inr rfl) next
      exact h.drops hcrew working (h.not_between thread (.inl rest))
  | @breakDown k n t c hstep thread settling =>
    have hcrew := h.crew.step hstep
    cases hstep with
    | breakDown draw thread' waits he next =>
      obtain ⟨working, rfl⟩ := Crew.dropped_next he next
      exact h.drops hcrew working (h.not_between thread (.inr ⟨c, settling⟩))
  | @abort k n hstep waits =>
    have hcrew := h.crew.step hstep
    cases hstep with
    | abort draw thread rests next =>
      obtain ⟨-, working, rfl⟩ := Crew.cancelled_next next
      exact h.drops hcrew working waits
  | elsewhere hsame =>
    exact ⟨h.crew, h.places, h.pairs, h.turns, fun k => (hsame _ rfl).trans (h.tasks k),
      fun a => (hsame _ rfl).trans (h.actions a), h.stats⟩

end Kept

theorem Reachable.kept (h : Reachable w config s) : Kept w config s := by
  induction h with
  | start => exact .start
  | step _ hstep ih => exact ih.step hstep

end

/-! ## What the counters show -/

/-- Whether the counters of the consumer and of the worker agree. -/
structure Balanced (s : Depot) : Prop where
  done : s.metrics.count (.queueAction "ack") = s.metrics.count (.task "delivered") + s.metrics.count (.task "skipped")
  failed : s.metrics.count (.queueAction "retry") + s.metrics.count (.queueAction "dead_letter") =
    s.metrics.count (.task "retryable") + s.metrics.count (.task "fatal")
  fatal : s.metrics.count (.task "fatal") ≤ s.metrics.count (.queueAction "dead_letter")
  stats : s.stats =
    { delivered := s.metrics.count (.task "delivered")
      skipped := s.metrics.count (.task "skipped")
      failed := s.metrics.count (.task "retryable") + s.metrics.count (.task "fatal") }

/-- What is alike for each delivery is alike for all. -/
theorem even_sums {ts : List Crew.Thread} {ds : List Desk} (h : List.Forall₂ Even ts ds) :
    let actions (a : String) := (ts.map (Crew.Thread.actions a)).sum
    let records (k : TaskRecord) := (ds.map (Desk.records k)).sum
    actions "ack" = records .delivered + records .skipped ∧
      actions "retry" + actions "dead_letter" = records .retryable + records .fatal ∧
      records .fatal ≤ actions "dead_letter" := by
  induction h with
  | nil => exact ⟨rfl, rfl, Nat.le_refl _⟩
  | cons heven _ ih =>
    obtain ⟨hdone, hfailed, hfatal⟩ := heven
    simp only [List.map_cons, List.sum_cons] at ih ⊢
    omega

section

variable {w : Worker} {config : ConsumerConfig} {s : Depot}

theorem Kept.balanced (h : Kept w config s) (idle : s.crew.consumer.jobs = []) : Balanced s := by
  have hidle (n : Nat) : ¬ s.Between n := fun hn => by
    have hmem := h.turns n hn
    rw [Crew.alive, idle] at hmem
    cases hmem
  have heven : List.Forall₂ Even s.crew.threads s.desks := by
    refine List.forall₂_iff_get.2 ⟨h.places.symm, fun n ht hd => ?_⟩
    have thread : s.crew.threads[n]? = some (s.crew.threads.get ⟨n, ht⟩) := List.getElem?_eq_getElem ht
    have desk : s.desks[n]? = some (s.desks.get ⟨n, hd⟩) := List.getElem?_eq_getElem hd
    exact even_of_paired (h.pairs n _ _ thread desk) (h.stands thread) fun hhalf => hidle n ⟨_, _, thread, desk, hhalf⟩
  have hsums := even_sums heven
  have htasks := h.tasks
  obtain ⟨hdone, hfailed, hfatal⟩ := hsums
  simp only [← htasks, ← h.actions, TaskRecord.name] at hdone hfailed hfatal
  refine ⟨hdone, hfailed, hfatal, ?_⟩
  simp only [h.stats, tally, ← htasks, TaskRecord.name]

end

end Depot
end Courier
