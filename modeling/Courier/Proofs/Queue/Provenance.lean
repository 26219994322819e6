import Courier.Proofs.Queue.Memory
import Courier.Proofs.Queue.Task
/-
Where the tasks come from that a queue hands out. Whatever is asked of a queue, and in
whatever order, each of them was in it from the start, or was put on it, or is the next
attempt of one that was handed out before.
-/

namespace Courier

/-- Whether a task comes from those held at the start and from what was asked. -/
inductive Task.Stems (held : Task → Prop) (asked : QueueCall → Prop) : Task → Prop
  | held {t : Task} (h : held t) : Stems held asked t
  | enqueued {t : Task} (h : asked (.enqueue t)) : Stems held asked t
  | retried {d : Delivery} {wait : Nat} (h : asked (.retry d wait)) (hd : Stems held asked d.task) :
    Stems held asked d.task.next

/-- The delivery that a call settles. -/
def QueueCall.settles? : QueueCall → Option Delivery
  | .ack d | .retry d _ | .deadLetter d _ => some d
  | .enqueue _ | .dequeue | .recover | .stats => none

namespace Task.Stems

variable {held : Task → Prop} {asked : QueueCall → Prop} {t u : Task}

theorem imp {asked' : QueueCall → Prop} (h : Stems held asked t) (hasked : ∀ c, asked c → asked' c) : Stems held asked' t := by
  induction h with
  | held h => exact .held h
  | enqueued h => exact .enqueued (hasked _ h)
  | retried h _ ih => exact .retried (hasked _ h) ih

/-- A task whose identifier nothing else has is the one that was put on the queue, tried however often. -/
theorem eq_withAttempts (h : Stems held asked u) (hheld : ∀ u, held u → u.id ≠ t.id)
    (hfresh : ∀ u, asked (.enqueue u) → u.id = t.id → u = t) (hid : u.id = t.id) : u = t.withAttempts u.attempts := by
  induction h with
  | held h => exact absurd hid (hheld _ h)
  | enqueued h => rw [hfresh _ h hid, withAttempts_attempts]
  | @retried d wait h _ ih =>
    have htask : d.task = t.withAttempts d.task.attempts := ih hid
    rw [next_eq, htask]
    rfl

/-- If nobody asked for another attempt, it is that very task. -/
theorem eq_of_not_retried (h : Stems held asked u) (hheld : ∀ u, held u → u.id ≠ t.id)
    (hfresh : ∀ u, asked (.enqueue u) → u.id = t.id → u = t) (hnever : ∀ d wait, asked (.retry d wait) → d.task.id ≠ t.id)
    (hid : u.id = t.id) : u = t := by
  cases h with
  | held h => exact absurd hid (hheld _ h)
  | enqueued h => exact hfresh _ h hid
  | @retried d wait h _ => exact absurd hid (hnever d wait h)

end Task.Stems

namespace MemoryQueue

/-- Whether a task is on the queue and may be handed out some time. -/
def Holds (q : MemoryQueue) (t : Task) : Prop := t ∈ q.pending ∨ (∃ due, (due, t) ∈ q.scheduled) ∨ t ∈ q.inflight

variable {q : MemoryQueue} {t : Task}

theorem holds_release {id : Uuid} (h : (q.release id).Holds t) : q.Holds t := by
  rcases h with h | h | h
  · exact .inl h
  · exact .inr (.inl h)
  · exact .inr (.inr (List.mem_filter.1 h).1)

theorem holds_promote {now : Time} (h : (q.promote now).Holds t) : q.Holds t := by
  rcases h with h | ⟨due, h⟩ | h
  · rcases mem_pending_promote.1 h with h | ⟨due, -, h⟩
    · exact .inl h
    · exact .inr (.inl ⟨due, h⟩)
  · exact .inr (.inl ⟨due, (mem_scheduled_promote.1 h).1⟩)
  · exact .inr (.inr h)

theorem holds_dequeue {now : Time} (h : (q.dequeue now).1.Holds t) : q.Holds t := by
  rcases dequeue_cases q now with ⟨-, hq⟩ | ⟨u, r, hpending, hq⟩
  · rw [hq] at h
    exact holds_promote h
  · rw [hq] at h
    suffices h : (q.promote now).Holds t from holds_promote h
    rcases h with h | h | h
    · exact .inl (hpending ▸ List.mem_cons_of_mem u h)
    · exact .inr (.inl h)
    · rcases List.mem_append.1 h with h | h
      · exact holds_release (.inr (.inr h))
      · rw [List.mem_singleton.1 h]
        exact .inl (hpending ▸ List.mem_cons_self)

theorem holds_of_dequeued {now : Time} {d : Delivery} (h : (q.dequeue now).2 = some d) : q.Holds d.task := by
  have hpending : (q.promote now).Holds d.task := .inl (mem_of_dequeued h)
  exact holds_promote hpending

/-- What a call brings to the queue is what was to be put on it, or to be tried again. -/
theorem holds_answer {now : Time} {clock : Calendar.Moment} {c : QueueCall} (h : (q.answer now clock c).1.Holds t) :
    q.Holds t ∨ c = .enqueue t ∨ ∃ d wait, c = .retry d wait ∧ t = d.task.next := by
  cases c with
  | enqueue u =>
    rcases h with h | h | h
    · rcases List.mem_append.1 h with h | h
      · exact .inl (.inl h)
      · exact .inr (.inl (by rw [List.mem_singleton.1 h]))
    · exact .inl (.inr (.inl h))
    · exact .inl (.inr (.inr h))
  | dequeue => exact .inl (holds_dequeue h)
  | ack d => exact .inl (holds_release h)
  | retry d wait =>
    rcases h with h | ⟨due, h⟩ | h
    · exact .inl (.inl h)
    · rcases List.mem_append.1 h with h | h
      · exact .inl (.inr (.inl ⟨due, h⟩))
      · cases List.mem_singleton.1 h
        exact .inr (.inr ⟨d, wait, rfl, rfl⟩)
    · exact .inl (holds_release (.inr (.inr h)))
  | deadLetter d reason => exact .inl (holds_release h)
  | recover =>
    rcases h with h | h | h
    · rcases List.mem_append.1 h with h | h
      · exact .inl (.inl h)
      · exact .inl (.inr (.inr h))
    · exact .inl (.inr (.inl h))
    · cases h
  | stats => exact .inl h

/-- The deliveries in an answer. -/
def handed : (c : QueueCall) → c.Result → List Delivery
  | .dequeue, some d => [d]
  | _, _ => []

/-- What came of a queue that was asked one thing after the other, the latest first, and what it handed out. Only what
was handed out is settled. -/
inductive Session (q₀ : MemoryQueue) : List QueueCall → MemoryQueue → List Delivery → Prop
  | start : Session q₀ [] q₀ []
  | call {asked : List QueueCall} {q : MemoryQueue} {ds : List Delivery} (h : Session q₀ asked q ds) (c : QueueCall)
    (may : ∀ d, c.settles? = some d → d ∈ ds) (now : Time) (clock : Calendar.Moment) :
    Session q₀ (c :: asked) (q.answer now clock c).1 (handed c (q.answer now clock c).2 ++ ds)

/-- **What a queue in memory holds and hands out comes from what it held and was asked.** -/
theorem Session.stems {q₀ : MemoryQueue} {asked : List QueueCall} {ds : List Delivery} (h : Session q₀ asked q ds) :
    (∀ t, q.Holds t → t.Stems q₀.Holds (· ∈ asked)) ∧ ∀ d ∈ ds, d.task.Stems q₀.Holds (· ∈ asked) := by
  induction h with
  | start => exact ⟨fun t ht => .held ht, fun d hd => by cases hd⟩
  | @call asked q ds _ c may now clock ih =>
    obtain ⟨hholds, hds⟩ := ih
    have later {t : Task} (ht : t.Stems q₀.Holds (· ∈ asked)) : t.Stems q₀.Holds (· ∈ c :: asked) :=
      ht.imp fun _ hc => List.mem_cons_of_mem _ hc
    refine ⟨fun t ht => ?_, fun d hd => ?_⟩
    · rcases holds_answer ht with ht | rfl | ⟨d, wait, rfl, rfl⟩
      · exact later (hholds t ht)
      · exact .enqueued List.mem_cons_self
      · have hasked : QueueCall.retry d wait ∈ QueueCall.retry d wait :: asked := List.mem_cons_self
        exact .retried hasked (later (hds d (may d rfl)))
    · rcases List.mem_append.1 hd with hd | hd
      · unfold handed at hd
        split at hd
        · next d' hd' =>
          rw [List.mem_singleton.1 hd]
          exact later (hholds _ (holds_of_dequeued hd'))
        · cases hd
      · exact later (hds d hd)

end MemoryQueue
end Courier
