import Mathlib.Data.List.Perm.Basic
import Courier.Proofs.Procedure
import Courier.Queue.Processing
/-
A consumer at work, with a thread for each delivery that it got. The loop of the consumer
and the threads go on in any order; the queue answers anything, a handler returns anything,
breaks down or never returns, and the consumer may be told to stop at any time. Nothing stands
still while the consumer leaves: between the time at which it counts the threads that are left
and the time at which one of them is aborted, that thread may go on, and come to its end.

A thread asks its first question some time after it was started. So one that is aborted
at once has not given its task to the handler.
-/

namespace Courier

open Number (Binary64)
open Procedure

/-- Whether a handler is to be given a task. -/
def ProcessAsk.isHandle : ProcessAsk → Bool
  | .handle _ => true
  | .count _ | .settle _ => false

/-- Whether a delivery is to be settled. -/
def ProcessAsk.isSettle : ProcessAsk → Bool
  | .settle _ => true
  | .handle _ | .count _ => false

/-- Whether an answer is waited for. Counting takes no time. -/
def ProcessAsk.isWait : ProcessAsk → Bool
  | .handle _ | .settle _ => true
  | .count _ => false

namespace Crew

/-- The processing of one delivery: what was asked and answered, what is left, and whether the
next question was asked. -/
structure Thread where
  delivery : Delivery
  draw : Binary64 → Binary64 → Binary64
  rest : Processing Unit
  log : Log ProcessAsk.Answer := []
  asking : Bool := false

namespace Thread

/-- The question that waits for its answer. -/
def open? (t : Thread) : Option ProcessAsk :=
  match t.rest with
  | .ask q _ => if t.asking then some q else none
  | .result _ => none

/-- All that was asked. -/
def calls (t : Thread) : List ProcessAsk := t.log.map (·.1) ++ t.open?.toList

/-- Whether a thread can be aborted: it has not begun, or waits for an answer. -/
def Rests (t : Thread) : Prop := t.calls = [] ∨ ∃ q, t.open? = some q ∧ q.isWait = true

end Thread

/-- Something that happens. -/
inductive Act
  /-- In the loop of the consumer. -/
  | loop (e : Consumer.Event)
  /-- A delivery is got from the queue. -/
  | take (d : Delivery)
  | ask (n : Nat)
  | answer (n : Nat) (q : ProcessAsk) (a : q.Answer)
  | finish (n : Nat)
  /-- A thread breaks down while it waits for an answer. -/
  | breakDown (n : Nat)
  | abort (n : Nat)

/-- The events of the loop that start and end no thread. -/
def Loop : Consumer.Event → Prop
  | .recovered | .stop | .place | .waited | .joined _ | .drained | .graceOver | .dequeued .empty | .dequeued .failed => True
  | .dequeued (.task _) | .handled _ _ | .broken _ | .settled _ | .cancelled _ => False

end Crew

/-- A consumer and its threads, in the order in which they were started; the number of a thread is its place. -/
structure Crew where
  consumer : Consumer
  threads : List Crew.Thread := []
  /-- The threads that came to their end: the delivery was settled, or could not be, or its handler broke down. -/
  ended : List Nat := []
  /-- The threads that were aborted. -/
  aborted : List Nat := []
  /-- The threads whose end the consumer had not seen when the time was over. -/
  counted : List Nat := []

namespace Crew

/-- The threads that are at work. -/
def alive (s : Crew) : List Nat := s.consumer.jobs.map (·.serial)

/-- The threads that are counted as left, after an event of the loop. -/
def countedAfter (s : Crew) : Consumer.Event → List Nat
  | .graceOver => s.consumer.left
  | _ => s.counted

/-- Whether a handler works for a thread. -/
def handles (s : Crew) (n : Nat) : Bool := (s.threads[n]?.bind Thread.open?).any (·.isHandle)

/-- One step, after what happens in it. -/
inductive Step (s : Crew) : Act → Crew → Prop
  | loop {c : Consumer} {e : Consumer.Event} (draw) (he : Loop e) (next : s.consumer.step draw e = some c) :
    Step s (.loop e) { s with consumer := c, counted := s.countedAfter e }
  | take {c : Consumer} {d : Delivery} (draw) (next : s.consumer.step draw (.dequeued (.task d)) = some c) :
    Step s (.take d)
      { s with consumer := c, threads := s.threads ++ [{ delivery := d, draw, rest := s.consumer.config.process draw d }] }
  | ask {n : Nat} {t : Thread} {q : ProcessAsk} {next : q.Answer → Processing Unit} (working : n ∈ s.alive)
    (thread : s.threads[n]? = some t) (rest : t.rest = .ask q next) (silent : t.asking = false) :
    Step s (.ask n) { s with threads := s.threads.set n { t with asking := true } }
  | handled {n : Nat} {t : Thread} {c : Consumer} {task : Task} {next : Except TaskFailure Unit → Processing Unit}
    (r : Except TaskFailure Unit) (thread : s.threads[n]? = some t) (rest : t.rest = .ask (.handle task) next)
    (asking : t.asking = true) (goOn : s.consumer.step t.draw (.handled n r) = some c) :
    Step s (.answer n (.handle task) r)
      { s with
        consumer := c
        threads := s.threads.set n { t with rest := next r, log := t.log ++ [⟨.handle task, some r⟩], asking := false } }
  | answer {n : Nat} {t : Thread} {q : ProcessAsk} {next : q.Answer → Processing Unit} (a : q.Answer)
    (working : n ∈ s.alive) (thread : s.threads[n]? = some t) (rest : t.rest = .ask q next) (asking : t.asking = true)
    (other : q.isHandle = false) :
    Step s (.answer n q a)
      { s with threads := s.threads.set n { t with rest := next a, log := t.log ++ [⟨q, some a⟩], asking := false } }
  | finish {n : Nat} {t : Thread} {c : Consumer} (draw) (thread : s.threads[n]? = some t) (rest : t.rest = .result ())
    (next : s.consumer.step draw (.settled n) = some c) :
    Step s (.finish n) { s with consumer := c, ended := n :: s.ended }
  | breakDown {n : Nat} {t : Thread} {c : Consumer} {q : ProcessAsk} (draw) {e : Consumer.Event}
    (thread : s.threads[n]? = some t) (waits : t.open? = some q) (he : e = .broken n ∨ e = .settled n)
    (next : s.consumer.step draw e = some c) : Step s (.breakDown n) { s with consumer := c, ended := n :: s.ended }
  | abort {n : Nat} {t : Thread} {c : Consumer} (draw) (thread : s.threads[n]? = some t) (rests : t.Rests)
    (next : s.consumer.step draw (.cancelled n) = some c) :
    Step s (.abort n) { s with consumer := c, aborted := n :: s.aborted }

/-- The states that a consumer reaches from its start. -/
inductive Reachable (config : ConsumerConfig) : Crew → Prop
  | start : Reachable config { consumer := { config } }
  | step {s s' : Crew} {act : Act} (h : Reachable config s) (hstep : Step s act s') : Reachable config s'

/-! ## What an event makes of a consumer -/

section

variable {c c' : Consumer} {draw : Binary64 → Binary64 → Binary64} {n : Nat}

/-- What stays of a consumer, and which phases it may come to, in an event of its loop. -/
structure Looped (e : Consumer.Event) (c c' : Consumer) : Prop where
  jobs : c'.jobs = c.jobs
  config : c'.config = c.config
  started : c'.report.started = c.report.started
  unjoined : c'.unjoined.Sublist c.unjoined
  unfinished : c.phase ≠ .finished
  placed : c'.phase = .dequeuing → c.hasPlace = true
  drained : c'.phase = .finished → c'.left = []
  /-- What is left is counted when the time is over, and that begins the last phase but one. -/
  counts : e = .graceOver ∧ c.phase = .draining ∧ c'.phase = .aborting ∧ c'.report.aborted = c.left.length ∨
    e ≠ .graceOver ∧ c'.report.aborted = c.report.aborted ∧ (c'.phase = .aborting → c.phase = .aborting) ∧
      (c.phase = .aborting → c'.phase = .aborting ∨ c'.phase = .finished)

theorem loop_next {e : Consumer.Event} (he : Loop e) (next : c.step draw e = some c') : Looped e c c' := by
  cases e with
  | handled _ _ | broken _ | settled _ | cancelled _ => cases he
  | recovered =>
    simp only [Consumer.step] at next
    split at next
    · next hphase =>
      cases next
      exact ⟨rfl, rfl, rfl, .refl _, by simp [hphase], by simp, by simp, .inr ⟨by simp, rfl, by simp, by simp [hphase]⟩⟩
    · cases next
  | stop | waited =>
    simp only [Consumer.step] at next
    split at next <;> cases next <;> next hphase =>
      exact ⟨rfl, rfl, rfl, by simp, by simp [hphase], by simp, by simp, .inr ⟨by simp, rfl, by simp, by simp [hphase]⟩⟩
  | place =>
    simp only [Consumer.step] at next
    split at next
    · next hphase =>
      cases next
      exact ⟨rfl, rfl, rfl, .refl _, by simp [hphase.1], fun _ => hphase.2, by simp,
        .inr ⟨by simp, rfl, by simp, by simp [hphase.1]⟩⟩
    · cases next
  | joined _ =>
    simp only [Consumer.step] at next
    split at next
    · next hleaving =>
      cases next
      rcases Consumer.isLeaving_iff.1 hleaving.1 with hphase | hphase <;>
        exact ⟨rfl, rfl, rfl, List.erase_sublist, by simp [hphase], by simp [hphase], by simp [hphase],
          .inr ⟨by simp, rfl, id, .inl⟩⟩
    · cases next
  | drained =>
    simp only [Consumer.step] at next
    split at next
    · next hdone =>
      cases next
      refine ⟨rfl, rfl, rfl, .refl _, fun hfinished => ?_, by simp, fun _ => hdone.2,
        .inr ⟨by simp, rfl, by simp, fun _ => .inr rfl⟩⟩
      rcases Consumer.isLeaving_iff.1 hdone.1 with hphase | hphase <;> simp [hphase] at hfinished
    · cases next
  | graceOver =>
    simp only [Consumer.step] at next
    split at next
    · next hphase =>
      cases next
      exact ⟨rfl, rfl, rfl, .refl _, by simp [hphase.1], by simp, by simp, .inl ⟨rfl, hphase.1, rfl, rfl⟩⟩
    · cases next
  | dequeued answer =>
    simp only [Consumer.step] at next
    split at next
    · cases next
    next hphase =>
    have hdequeuing : c.phase = .dequeuing := Decidable.not_not.1 hphase
    cases answer with
    | task d => cases he
    | empty | failed =>
      cases next
      exact ⟨rfl, rfl, rfl, .refl _, by simp [hdequeuing], by simp, by simp,
        .inr ⟨by simp, rfl, by simp, by simp [hdequeuing]⟩⟩

theorem take_next {d : Delivery} (next : c.step draw (.dequeued (.task d)) = some c') :
    c.phase = .dequeuing ∧ c'.phase = .ready ∧ c'.jobs = c.jobs ++ [⟨c.report.started, d, .handling⟩] ∧
      c'.config = c.config ∧ c'.report = { c.report with started := c.report.started + 1 } ∧ c'.unjoined = [] := by
  simp only [Consumer.step] at next
  split at next
  · cases next
  · next hphase =>
    cases next
    exact ⟨Decidable.not_not.1 hphase, rfl, rfl, rfl, rfl, rfl⟩

theorem mem_of_job? {j : Consumer.Job} (h : c.job? n = some j) : n ∈ c.jobs.map (·.serial) := by
  have hserial : j.serial = n := by simpa using List.find?_some h
  exact List.mem_map.2 ⟨j, List.mem_of_find?_eq_some h, hserial⟩

theorem handled_next {r : Except TaskFailure Unit} (next : c.step draw (.handled n r) = some c') :
    n ∈ c.jobs.map (·.serial) ∧ ∃ stage, c' = c.setStage n stage := by
  simp only [Consumer.step] at next
  split at next
  · next hjob =>
    cases next
    exact ⟨mem_of_job? hjob, _, rfl⟩
  · cases next

/-- The end of a job is noted, and changes nothing else. -/
theorem dropped_next {e : Consumer.Event} (he : e = .broken n ∨ e = .settled n) (next : c.step draw e = some c') :
    n ∈ c.jobs.map (·.serial) ∧ c' = c.dropJob n := by
  rcases he with rfl | rfl
  all_goals
    simp only [Consumer.step] at next
    split at next
    · next hjob =>
      cases next
      exact ⟨mem_of_job? hjob, rfl⟩
    · cases next

theorem cancelled_next (next : c.step draw (.cancelled n) = some c') :
    c.phase = .aborting ∧ n ∈ c.jobs.map (·.serial) ∧ c' = c.dropJob n := by
  simp only [Consumer.step] at next
  split at next
  · next hcancelled =>
    obtain ⟨hphase, hjob⟩ := hcancelled
    obtain ⟨j, hj⟩ := Option.isSome_iff_exists.1 hjob
    cases next
    exact ⟨hphase, mem_of_job? hj, rfl⟩
  · cases next

/-- Stages have no part in which jobs there are. -/
theorem serials_setStage (stage : Consumer.Stage) : (c.setStage n stage).jobs.map (·.serial) = c.jobs.map (·.serial) := by
  simp only [Consumer.setStage, List.map_map]
  refine List.map_congr_left fun j _ => ?_
  simp only [Function.comp_apply]
  split <;> rfl

/-- A job that ended is the one that is not there any more. -/
theorem serials_dropJob (hmem : n ∈ c.jobs.map (·.serial)) (hnodup : (c.jobs.map (·.serial)).Nodup) :
    (n :: (c.dropJob n).jobs.map (·.serial)).Perm (c.jobs.map (·.serial)) := by
  have hdrop : (c.dropJob n).jobs.map (·.serial) = (c.jobs.map (·.serial)).erase n := by
    rw [hnodup.erase_eq_filter, List.filter_map]
    have hkept (j : Consumer.Job) : decide (j.serial ≠ n) = ((· != n) ∘ (·.serial)) j := by
      rw [Bool.eq_iff_iff]
      simp
    exact congrArg (List.map (·.serial)) (List.filter_congr fun j _ => hkept j)
  rw [hdrop]
  exact (List.perm_cons_erase hmem).symm

end

/-! ## Where a thread stands -/

/-- Where the processing of a delivery stands, with what was asked and answered. -/
inductive Stands (config : ConsumerConfig) (draw : Binary64 → Binary64 → Binary64) (d : Delivery) :
    Log ProcessAsk.Answer → Processing Unit → Prop
  | fresh : Stands config draw d [] (config.process draw d)
  | handled (r : Except TaskFailure Unit) : Stands config draw d [⟨.handle d.task, some r⟩]
      (.ask (.count (.queueAction (config.settlement draw d.task r).action)) fun _ =>
        .ask (.settle ((config.settlement draw d.task r).call d)) fun _ => .result ())
  | counted (r : Except TaskFailure Unit) : Stands config draw d
      [⟨.handle d.task, some r⟩, ⟨.count (.queueAction (config.settlement draw d.task r).action), some ()⟩]
      (.ask (.settle ((config.settlement draw d.task r).call d)) fun _ => .result ())
  | settled (r : Except TaskFailure Unit) (x : ((config.settlement draw d.task r).call d).Answer) : Stands config draw d
      [⟨.handle d.task, some r⟩, ⟨.count (.queueAction (config.settlement draw d.task r).action), some ()⟩,
        ⟨.settle ((config.settlement draw d.task r).call d), some x⟩] (.result ())

theorem stands_of_comes {config : ConsumerConfig} {draw : Binary64 → Binary64 → Binary64} {d : Delivery}
    {l : Log ProcessAsk.Answer} {rest : Processing Unit} (h : Comes (config.process draw d) l rest) :
    Stands config draw d l rest := by
  rcases h.of_ask with ⟨rfl, rfl⟩ | ⟨r, l₁, rfl, h₁⟩
  · exact .fresh
  rcases h₁.of_ask with ⟨rfl, rfl⟩ | ⟨_, l₂, rfl, h₂⟩
  · exact .handled r
  rcases h₂.of_ask with ⟨rfl, rfl⟩ | ⟨x, l₃, rfl, h₃⟩
  · exact .counted r
  obtain ⟨rfl, rfl⟩ := h₃.of_result
  exact .settled r x

/-! ## What stays true while a consumer works -/

theorem getElem?_concat {α : Type} {l : List α} {a b : α} {n : Nat} (h : (l ++ [a])[n]? = some b) :
    l[n]? = some b ∨ n = l.length ∧ b = a := by
  rcases Nat.lt_trichotomy n l.length with hlt | rfl | hgt
  · rw [List.getElem?_append_left hlt] at h
    exact .inl h
  · rw [List.getElem?_concat_length] at h
    exact .inr ⟨rfl, (Option.some.inj h).symm⟩
  · rw [List.getElem?_eq_none (by simp; omega)] at h
    cases h

/-- The parts of a state that its threads have to agree with. -/
structure Kept (config : ConsumerConfig) (s : Crew) : Prop where
  configured : s.consumer.config = config
  started : s.consumer.report.started = s.threads.length
  /-- Each thread is at work, came to its end or was aborted, and only one of these. -/
  numbers : (s.alive ++ s.ended ++ s.aborted).Perm (List.range s.threads.length)
  /-- A place is taken before the queue is asked for a task. -/
  places : s.alive.length + (if s.consumer.phase = .dequeuing then 1 else 0) ≤ config.concurrency
  emptied : s.consumer.phase = .finished → s.consumer.left = []
  courses : ∀ (n : Nat) (t : Thread), s.threads[n]? = some t → Comes (config.process t.draw t.delivery) t.log t.rest
  /-- A thread that came to its end was through, or broke down at an open question. -/
  halted : ∀ (n : Nat) (t : Thread), s.threads[n]? = some t → n ∈ s.ended → t.rest = .result () ∨ ∃ q, t.open? = some q
  /-- A thread that was aborted had not begun, or waited. -/
  rested : ∀ (n : Nat) (t : Thread), s.threads[n]? = some t → n ∈ s.aborted → t.Rests

section

variable {config : ConsumerConfig} {s s' : Crew} {c : Consumer} {n : Nat} {t t' : Thread}

theorem Kept.start : Kept config { consumer := { config } } where
  configured := rfl
  started := rfl
  numbers := .refl _
  places := Nat.zero_le _
  emptied _ := rfl
  courses n t h := by simp at h
  halted n t h := by simp at h
  rested n t h := by simp at h

namespace Kept

theorem nodup (h : Kept config s) : (s.alive ++ (s.ended ++ s.aborted)).Nodup := by
  rw [← List.append_assoc]
  exact h.numbers.nodup_iff.2 List.nodup_range

theorem nodup_alive (h : Kept config s) : s.alive.Nodup := (List.nodup_append.1 h.nodup).1

theorem nodup_over (h : Kept config s) : (s.ended ++ s.aborted).Nodup := (List.nodup_append.1 h.nodup).2.1

/-- A thread at work is not over. -/
theorem not_over (h : Kept config s) (working : n ∈ s.alive) : n ∉ s.ended ++ s.aborted := fun hover =>
  (List.nodup_append.1 h.nodup).2.2 n working n hover rfl

/-- A thread that was aborted did not come to its end. -/
theorem not_ended (h : Kept config s) (aborted : n ∈ s.aborted) : n ∉ s.ended := fun hended =>
  (List.nodup_append.1 h.nodup_over).2.2 n hended n aborted rfl

/-- The place of a thread at work. -/
theorem lt_of_alive (h : Kept config s) (working : n ∈ s.alive) : n < s.threads.length :=
  List.mem_range.1 (h.numbers.mem_iff.1 (by simp [working]))

/-- A thread whose number is no job's came to its end, or was aborted. -/
theorem gone (h : Kept config s) (thread : s.threads[n]? = some t) (idle : n ∉ s.alive) : n ∈ s.ended ∨ n ∈ s.aborted := by
  have hmem : n ∈ s.alive ++ s.ended ++ s.aborted :=
    h.numbers.mem_iff.2 (List.mem_range.2 (List.getElem?_eq_some_iff.1 thread).1)
  simp only [List.mem_append, idle, false_or] at hmem
  exact hmem

/-- When the consumer has stopped, no thread is at work. -/
theorem idle (h : Kept config s) (hfinished : s.consumer.phase = .finished) : s.alive = [] :=
  (List.append_eq_nil_iff.1 (h.emptied hfinished)).1

/-- A thread at work goes on. -/
theorem goesOn (h : Kept config s) (working : n ∈ s.alive) (hconfig : c.config = s.consumer.config)
    (hphase : c.phase = s.consumer.phase) (hreport : c.report = s.consumer.report)
    (hserials : c.jobs.map (·.serial) = s.alive) (hcourse : Comes (config.process t'.draw t'.delivery) t'.log t'.rest) :
    Kept config { s with consumer := c, threads := s.threads.set n t' } := by
  have hother {k : Nat} {u : Thread} (hover : k ∈ s.ended ++ s.aborted) (hk : (s.threads.set n t')[k]? = some u) :
      s.threads[k]? = some u := by
    have hkn : n ≠ k := by
      rintro rfl
      exact h.not_over working hover
    rwa [List.getElem?_set_ne hkn] at hk
  constructor
  case configured => exact hconfig.trans h.configured
  case started => simp only [hreport, List.length_set, h.started]
  case numbers =>
    simp only [alive, hserials, List.length_set]
    exact h.numbers
  case places =>
    simp only [alive, hserials, hphase]
    exact h.places
  case emptied =>
    intro hfinished
    rw [h.idle (hphase ▸ hfinished)] at working
    cases working
  case courses =>
    intro k u hk
    by_cases hkn : n = k
    · subst hkn
      rw [List.getElem?_set_self (h.lt_of_alive working)] at hk
      obtain rfl := Option.some.inj hk
      exact hcourse
    · rw [List.getElem?_set_ne hkn] at hk
      exact h.courses k u hk
  case halted => exact fun k u hk hended => h.halted k u (hother (List.mem_append_left _ hended) hk) hended
  case rested => exact fun k u hk haborted => h.rested k u (hother (List.mem_append_right _ haborted) hk) haborted

/-- A thread is over, in one way or the other. -/
theorem drops (h : Kept config s) (working : n ∈ s.alive) {ended aborted : List Nat}
    (hover : (ended ++ aborted).Perm (n :: (s.ended ++ s.aborted)))
    (hhalted : ∀ (k : Nat) (u : Thread), s.threads[k]? = some u → k ∈ ended → u.rest = .result () ∨ ∃ q, u.open? = some q)
    (hrested : ∀ (k : Nat) (u : Thread), s.threads[k]? = some u → k ∈ aborted → u.Rests) :
    Kept config { s with consumer := s.consumer.dropJob n, ended, aborted } := by
  have hdrop : (n :: (s.consumer.dropJob n).jobs.map (·.serial)).Perm s.alive := serials_dropJob working h.nodup_alive
  constructor
  case configured => exact h.configured
  case started => exact h.started
  case numbers =>
    refine List.Perm.trans ?_ h.numbers
    rw [List.append_assoc, List.append_assoc]
    exact (hover.append_left _).trans (List.perm_middle.trans (hdrop.append_right (s.ended ++ s.aborted)))
  case places =>
    refine Nat.le_trans (Nat.add_le_add_right ?_ _) h.places
    have hlength := hdrop.length_eq
    simp only [alive, List.length_cons] at hlength ⊢
    omega
  case emptied =>
    intro hfinished
    rw [h.idle hfinished] at working
    cases working
  case courses => exact h.courses
  case halted => exact hhalted
  case rested => exact hrested

/-- A thread comes to its end. -/
theorem ends (h : Kept config s) (working : n ∈ s.alive) (thread : s.threads[n]? = some t)
    (hhalted : t.rest = .result () ∨ ∃ q, t.open? = some q) :
    Kept config { s with consumer := s.consumer.dropJob n, ended := n :: s.ended } := by
  refine h.drops working (.refl _) (fun k u hk hended => ?_) h.rested
  rcases List.mem_cons.1 hended with rfl | hended
  · obtain rfl := Option.some.inj (thread.symm.trans hk)
    exact hhalted
  · exact h.halted k u hk hended

/-- A thread is aborted. -/
theorem aborts (h : Kept config s) (working : n ∈ s.alive) (thread : s.threads[n]? = some t) (rests : t.Rests) :
    Kept config { s with consumer := s.consumer.dropJob n, aborted := n :: s.aborted } := by
  refine h.drops working List.perm_middle h.halted fun k u hk haborted => ?_
  rcases List.mem_cons.1 haborted with rfl | haborted
  · obtain rfl := Option.some.inj (thread.symm.trans hk)
    exact rests
  · exact h.rested k u hk haborted

/-- The loop goes on. -/
theorem loops (h : Kept config s) {e : Consumer.Event} (hl : Looped e s.consumer c) (counted : List Nat) :
    Kept config { s with consumer := c, counted } where
  configured := hl.config.trans h.configured
  started := hl.started.trans h.started
  numbers := by
    simp only [alive, hl.jobs]
    exact h.numbers
  places := by
    have hplaces := h.places
    simp only [alive, hl.jobs, List.length_map] at hplaces ⊢
    split
    · next hphase =>
      have hplace := hl.placed hphase
      simp only [Consumer.hasPlace, h.configured, decide_eq_true_eq] at hplace
      omega
    · omega
  emptied := hl.drained
  courses := h.courses
  halted := h.halted
  rested := h.rested

/-- A thread is started for a delivery. -/
theorem takes (h : Kept config s) {draw draw' : Binary64 → Binary64 → Binary64} {d : Delivery}
    (next : s.consumer.step draw (.dequeued (.task d)) = some c) :
    Kept config
      { s with
        consumer := c
        threads := s.threads ++ [{ delivery := d, draw := draw', rest := s.consumer.config.process draw' d }] } := by
  obtain ⟨hdequeuing, hready, hjobs, hconfig, hreport, -⟩ := take_next next
  have hserials : c.jobs.map (·.serial) = s.alive ++ [s.threads.length] := by
    simp only [hjobs, List.map_append, List.map_cons, List.map_nil, h.started, alive]
  have hnew : s.threads.length ∉ s.ended ++ s.aborted := fun hover => by
    have hmem := h.numbers.mem_iff.1 (List.append_assoc _ _ _ ▸ List.mem_append_right s.alive hover)
    exact absurd (List.mem_range.1 hmem) (Nat.lt_irrefl _)
  have hother {k : Nat} {u v : Thread} (hover : k ∈ s.ended ++ s.aborted) (hk : (s.threads ++ [v])[k]? = some u) :
      s.threads[k]? = some u :=
    (getElem?_concat hk).resolve_right fun hlast => hnew (hlast.1 ▸ hover)
  constructor
  case configured => exact hconfig.trans h.configured
  case started => simp only [hreport, h.started, List.length_append, List.length_cons, List.length_nil]
  case numbers =>
    simp only [alive, hserials, List.length_append, List.length_cons, List.length_nil, Nat.zero_add, List.range_succ]
    refine List.Perm.trans ?_ (h.numbers.append_right _)
    simp only [List.append_assoc]
    exact List.Perm.append_left _ (List.perm_append_comm.trans (by rw [List.append_assoc]))
  case places =>
    have hplaces := h.places
    rw [if_pos hdequeuing] at hplaces
    simp only [alive, hserials, hready, List.length_append, List.length_cons, List.length_nil] at hplaces ⊢
    rw [if_neg (by simp)]
    exact hplaces
  case emptied =>
    intro hfinished
    rw [hready] at hfinished
    cases hfinished
  case courses =>
    intro n t hn
    rcases getElem?_concat hn with hn | ⟨-, rfl⟩
    · exact h.courses n t hn
    · exact h.configured ▸ .start
  case halted => exact fun k u hk hended => h.halted k u (hother (List.mem_append_left _ hended) hk) hended
  case rested => exact fun k u hk haborted => h.rested k u (hother (List.mem_append_right _ haborted) hk) haborted

end Kept

/-- **One step.** -/
theorem Step.kept {act : Act} (hstep : Step s act s') (h : Kept config s) : Kept config s' := by
  cases hstep with
  | loop draw he next => exact h.loops (loop_next he next) _
  | take draw next => exact h.takes next
  | ask working thread rest silent =>
    have hcourse := h.courses _ _ thread
    exact h.goesOn working rfl rfl rfl rfl hcourse
  | @handled n t c task next r thread rest asking goOn =>
    obtain ⟨working, stage, rfl⟩ := handled_next goOn
    have hcourse := h.courses _ _ thread
    rw [rest] at hcourse
    exact h.goesOn working rfl rfl rfl (serials_setStage stage) (hcourse.answered r)
  | @answer n t q next a working thread rest asking other =>
    have hcourse := h.courses _ _ thread
    rw [rest] at hcourse
    exact h.goesOn working rfl rfl rfl rfl (hcourse.answered a)
  | finish draw thread rest next =>
    obtain ⟨working, rfl⟩ := dropped_next (.inr rfl) next
    exact h.ends working thread (.inl rest)
  | breakDown draw thread waits he next =>
    obtain ⟨working, rfl⟩ := dropped_next he next
    exact h.ends working thread (.inr ⟨_, waits⟩)
  | abort draw thread rests next =>
    obtain ⟨-, working, rfl⟩ := cancelled_next next
    exact h.aborts working thread rests

/-- Nothing more happens when the consumer has stopped. -/
theorem Step.unfinished {act : Act} (hstep : Step s act s') (h : Kept config s) : s.consumer.phase ≠ .finished := by
  intro hfinished
  have hidle {n : Nat} : n ∉ s.alive := by simp [h.idle hfinished]
  cases hstep with
  | loop draw he next => exact (loop_next he next).unfinished hfinished
  | take draw next =>
    rw [(take_next next).1] at hfinished
    cases hfinished
  | ask working thread rest silent => exact hidle working
  | handled r thread rest asking goOn => exact hidle (handled_next goOn).1
  | answer a working thread rest asking other => exact hidle working
  | finish draw thread rest next => exact hidle (dropped_next (.inr rfl) next).1
  | breakDown draw thread waits he next => exact hidle (dropped_next he next).1
  | abort draw thread rests next => exact hidle (cancelled_next next).2.1

/-- What stays true holds at any time. -/
theorem Reachable.kept (h : Reachable config s) : Kept config s := by
  induction h with
  | start => exact .start
  | step _ hstep ih => exact hstep.kept ih

end

def sampleDelivery (n : Nat) : Delivery :=
  { task := { id := ⟨n⟩, kind := Task.messageKind, payload := "a", enqueuedAt := .epoch }, receipt := "r" }

end Crew
end Courier
