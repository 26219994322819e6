import Courier.Proofs.Redis.Clients
import Courier.Proofs.Redis.Score
/-
How a queue on a Redis server loses a task. One client is enough: it puts a task
on the queue, takes it, asks for it to be tried again at once, and asks for a task
once more. The task is due; the client takes it out of the set, and is refused
before it puts it back. It might as well have stopped there.

Each request is followed in a lemma of its own, so that a course of them reads as
what the client does.
-/

namespace Courier.RedisQueue.World

open Calendar (Moment)
open Redis (Store Reply)

/-- What there is while the first client is at work alone. -/
structure Alone (keys : RedisKeys) (w : World) (client : Client) (pending processing : List String)
    (aside : List (Int × String)) (enqueued : List Task) (delivered : List Delivery) : Prop where
  client : w.clients 0 = client
  others : ∀ i, i ≠ 0 → w.clients i = .idle
  pending : w.store.lists keys.pending = pending
  processing : w.store.lists keys.processing = processing
  aside : w.store.sets keys.scheduled = aside
  enqueued : w.enqueued = enqueued
  delivered : w.delivered = delivered
  settled : w.settled = []

section

variable {keys : RedisKeys} {w : World} {x : Client} {p q : List String} {a : List (Int × String)} {e : List Task}
  {d : List Delivery} {t : Task}

theorem Alone.turn (h : Alone keys w x p q a e d) (y : Client) : Alone keys (w.setClient 0 y) y p q a e d :=
  ⟨rfl, fun i hi => (if_neg hi).trans (h.others i hi), h.pending, h.processing, h.aside, h.enqueued, h.delivered,
    h.settled⟩

theorem Alone.mem_delivered {b : Delivery} (h : Alone keys w x p q a e (b :: d)) : b ∈ w.delivered := by
  rw [h.delivered]
  exact List.mem_cons_self ..

/-- What is left when the client is refused while it holds the only text of a task. -/
theorem Alone.lost {raw : String} (h : Alone keys w (.busy _ (.promoting raw [])) [] [] [] [t] d) (error : String) :
    let w' := w.refuse 0 (.promoting raw []) error
    t ∈ w'.enqueued ∧ ¬ w'.Settled t ∧ ¬ w'.Stores keys t ∧ ∀ i, (w'.clients i).holds? = none := by
  intro w'
  have hafter : Alone keys w' .idle [] [] [] [t] d :=
    ⟨rfl, (h.turn .idle).others, h.pending, h.processing, h.aside, h.enqueued, h.delivered, h.settled⟩
  refine ⟨?_, ?_, ?_, fun i => ?_⟩
  · rw [hafter.enqueued]
    exact List.mem_cons_self ..
  · rintro ⟨n, hn⟩
    rw [hafter.settled] at hn
    cases hn
  · rintro ⟨y, -, hy | hy | hy⟩
    · rw [hafter.pending] at hy
      cases hy
    · rw [hafter.processing] at hy
      cases hy
    · rw [Store.members, hafter.aside] at hy
      cases hy
  · by_cases hi : i = 0
    · rw [hi, hafter.client]
      rfl
    · rw [hafter.others i hi]
      rfl

/-! ## Requests -/

theorem Alone.adding (hk : keys.Apart) (h : Alone keys w (.busy _ (.adding t)) p q a e d) :
    Alone keys (w.act keys .epoch 0 (.adding t)) .idle (t.encode :: p) q a (t :: e) d := by
  have hne : keys.pending ≠ keys.processing := hk
  have hr : w.store.perform (Stage.request keys .epoch (.adding t)) =
      (w.store.setList keys.pending (t.encode :: p), .int (p.length + 1)) := by
    simp [Stage.request, Store.perform, Store.step, h.pending]
  simp only [act, hr]
  refine ⟨rfl, (h.turn .idle).others, ?_, ?_, h.aside, congrArg (t :: ·) h.enqueued, h.delivered, h.settled⟩
  · simp
  · simp [h.processing, hne.symm]

theorem receive_listing (ts : List String) :
    Stage.listing.receive (.list (ts.map .text)) = .stage (Stage.promote ts) := by
  have hnone : Reply.errorIn? (ts.map .text) = none := by
    induction ts with
    | nil => rfl
    | cons t ts ih => simpa [Reply.errorIn?, Reply.error?] using ih
  have htexts : (ts.map Reply.text).mapM Reply.asText = .ok ts := by
    clear hnone
    induction ts with
    | nil => rfl
    | cons t ts ih =>
      rw [List.map_cons, List.mapM_cons, ih]
      rfl
  simp only [Stage.receive, Reply.checked, Reply.error?, hnone, Except.bind, Stage.receiveChecked, Reply.asTexts, htexts,
    Except.map]

theorem Alone.listing (due : List String) (h : Alone keys w (.busy _ .listing) p q a e d)
    (hdue : ((a.takeWhile (·.1 ≤ Redis.asDouble Moment.epoch.unixMillis)).take promotionLimit).map (·.2) = due) :
    Alone keys (w.act keys .epoch 0 .listing) (.busy _ (Stage.promote due)) p q a e d := by
  have hr : w.store.perform (Stage.request keys .epoch .listing) = (w.store, .list (due.map .text)) := by
    simp [Stage.request, Store.perform, Store.step, h.aside, ← hdue, Function.comp_def]
  simp only [act, hr, receive_listing, goOn]
  exact h.turn _

theorem receive_text (raw : String) : Stage.taking.receive (.text raw) = Stage.taken raw := by
  simp [Stage.receive, Reply.checked, Reply.error?, Except.bind, Stage.receiveChecked, Reply.asText?, Reply.asText, Except.map]

theorem receive_taking {t : Task} (ht : t.Sound) :
    Stage.taking.receive (.text t.encode) = .finished (.ok (some ⟨t, t.encode⟩)) := by
  rw [receive_text, Stage.taken, Task.decode_encode ht]

theorem Alone.taking (hk : keys.Apart) (ht : t.Sound) (h : Alone keys w (.busy _ .taking) [t.encode] q a e d) :
    Alone keys (w.act keys .epoch 0 .taking) .idle [] (t.encode :: q) a e (⟨t, t.encode⟩ :: d) := by
  have hne : keys.pending ≠ keys.processing := hk
  have hr : w.store.perform (Stage.request keys .epoch .taking) =
      ((w.store.setList keys.pending []).setList keys.processing (t.encode :: q), .text t.encode) := by
    simp [Stage.request, Store.perform, Store.step, h.pending, h.processing, Store.taken?, Store.added, hne.symm]
  simp only [act, hr, receive_taking ht, goOn]
  exact ⟨rfl, (h.turn .idle).others, by simp [setClient, note, hne], by simp [setClient, note], h.aside, h.enqueued,
    congrArg (_ :: ·) h.delivered, h.settled⟩

theorem Alone.rescheduling (h : Alone keys w (.busy _ (.rescheduling ⟨t, t.encode⟩ 0)) [] [t.encode] [] e d) :
    Alone keys (w.act keys .epoch 0 (.rescheduling ⟨t, t.encode⟩ 0)) .idle [] [] [(0, t.next.encode)] e d := by
  have hr : w.store.perform (Stage.request keys .epoch (.rescheduling ⟨t, t.encode⟩ 0)) =
      ((w.store.setList keys.processing []).setSet keys.scheduled [(0, t.next.encode)], .list [.int 1, .int 1]) := by
    have hdue : dueTime Moment.epoch 0 = 0 := by decide
    have hkept : Redis.asDouble 0 = 0 := Redis.asDouble_eq (Nat.zero_le _)
    simp [Stage.request, Store.perform, Store.steps, Store.step, h.processing, h.aside, hdue, hkept, Store.insertMember]
  simp only [act, hr]
  refine ⟨rfl, (h.turn .idle).others, ?_, ?_, ?_, h.enqueued, h.delivered, h.settled⟩
  · simp [h.pending]
  · simp
  · simp

theorem Alone.claiming {raw : String} (h : Alone keys w (.busy _ (.claiming raw [])) p q [(0, raw)] e d) :
    Alone keys (w.act keys .epoch 0 (.claiming raw [])) (.busy _ (.promoting raw [])) p q [] e d := by
  have hr : w.store.perform (Stage.request keys .epoch (.claiming raw [])) =
      (w.store.setSet keys.scheduled [], .int 1) := by
    simp [Stage.request, Store.perform, Store.step, h.aside]
  simp only [act, hr]
  refine ⟨rfl, (h.turn (.busy .dequeue (.promoting raw []))).others, ?_, ?_, ?_, h.enqueued, h.delivered, h.settled⟩
  · simp [h.pending]
  · simp [h.processing]
  · simp

end

/-- **Any task can be lost**: there is a course in which one client is refused when
it has taken the task out of the set, and then the task is nowhere. -/
theorem exists_lost {keys : RedisKeys} (hk : keys.Apart) {t : Task} (ht : t.Sound) :
    ∃ ws w, Course keys ws ∧ w ∈ ws ∧ t ∈ w.enqueued ∧ ¬ w.Settled t ∧ ¬ w.Stores keys t ∧
      ∀ i, (w.clients i).holds? = none := by
  have h : Alone keys {} .idle [] [] [] [] [] := ⟨rfl, fun _ _ => rfl, rfl, rfl, rfl, rfl, rfl, rfl⟩
  have course : Course keys [{}] := .start ⟨fun _ => rfl, List.nodup_nil, rfl, rfl, rfl, rfl⟩
  -- the task is put on the queue
  replace course := course.step (.start h.client (c := .enqueue t) ht)
  replace h := h.turn (.busy (.enqueue t) (.adding t))
  replace course := course.step (.act h.client .epoch)
  replace h := h.adding hk
  -- it is taken
  replace course := course.step (.start h.client (c := .dequeue) trivial)
  replace h := h.turn (.busy .dequeue .listing)
  replace course := course.step (.act h.client .epoch)
  replace h := h.listing [] rfl
  replace course := course.step (.act h.client .epoch)
  replace h := h.taking hk ht
  -- it is to be tried again at once
  replace course := course.step (.start h.client (c := .retry ⟨t, t.encode⟩ 0) h.mem_delivered)
  replace h := h.turn (.busy (.retry ⟨t, t.encode⟩ 0) (.rescheduling ⟨t, t.encode⟩ 0))
  replace course := course.step (.act h.client .epoch)
  replace h := h.rescheduling
  -- it is due, and is taken out of the set
  replace course := course.step (.start h.client (c := .dequeue) trivial)
  replace h := h.turn (.busy .dequeue .listing)
  replace course := course.step (.act h.client .epoch)
  replace h := h.listing [t.next.encode] rfl
  replace course := course.step (.act h.client .epoch)
  replace h := h.claiming
  -- and the client is refused before it puts it back
  replace course := course.step (.refuse h.client "LOADING Redis is loading")
  exact ⟨_, _, course, List.mem_cons_self .., h.lost _⟩

/-- A task to be lost. -/
def sampleTask : Task := { id := ⟨1000⟩, kind := Task.messageKind, payload := "a", enqueuedAt := .epoch }

theorem sampleTask_sound : sampleTask.Sound :=
  ⟨by decide, by decide, ⟨by decide, by decide, .inl (by decide)⟩⟩

end Courier.RedisQueue.World
