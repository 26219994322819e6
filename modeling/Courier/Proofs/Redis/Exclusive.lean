import Courier.Proofs.Redis.Turns
/-
A queue on a Redis server has each of its tasks at one place, and no two clients have
deliveries of a task that are unsettled, whatever the interleaving of their requests.

All tasks on all shelves together are those that were put on the queue, and these are
distinct. So an identifier is on one shelf and at one place of it.
-/

namespace Courier.RedisQueue.Custody

open Calendar (Moment)
open Redis (Store)
open Consumption (bare)

section

variable {keys : RedisKeys} {w : Custody} {hands : List (Nat × Task)}

/-! ## One place for each task -/

/-- All shelves. -/
def Shelf.all : List Shelf := [.pending, .processing, .scheduled, .dead, .acknowledged, .hands]

theorem Shelf.mem_all (k : Shelf) : k ∈ all := by cases k <;> decide

theorem Kept.perm (h : Kept keys w hands) :
    ((Shelf.all.flatMap (content keys w hands)).map bare).Perm (w.world.enqueued.map bare) := by
  refine List.perm_iff_count.2 fun b => ?_
  have hconserved := h.conserved b
  have hall : Shelf.all.flatMap (content keys w hands) = content keys w hands .pending ++ (content keys w hands .processing ++
      (content keys w hands .scheduled ++ (content keys w hands .dead ++ (content keys w hands .acknowledged ++
        content keys w hands .hands)))) := by simp [Shelf.all]
  rw [hall]
  simp only [census, stock, copies] at hconserved
  simp only [content, List.map_append, List.count_append]
  omega

/-- No identifier is there twice, on one shelf or on two. -/
theorem Kept.ids (h : Kept keys w hands) : ((Shelf.all.flatMap (content keys w hands)).map (·.id)).Nodup := by
  have hperm := (h.perm.map (·.id)).nodup_iff
  simp only [List.map_map, Function.comp_def, bare, Task.withAttempts] at hperm
  exact hperm.2 h.distinct

theorem Kept.shelf_ids (h : Kept keys w hands) (k : Shelf) : ((content keys w hands k).map (·.id)).Nodup := by
  have hids := h.ids
  rw [List.map_flatMap] at hids
  exact (List.nodup_flatMap.1 hids).1 k k.mem_all

theorem Kept.one_shelf (h : Kept keys w hands) {k k' : Shelf} {t u : Task} (ht : t ∈ content keys w hands k)
    (hu : u ∈ content keys w hands k') (he : t.id = u.id) : k = k' := by
  by_contra hne
  have hids := h.ids
  rw [List.map_flatMap] at hids
  have hsymm : Std.Symm (Function.onFun List.Disjoint fun k => (content keys w hands k).map (·.id)) :=
    ⟨fun _ _ hd _ hx hx' => hd hx' hx⟩
  have hdisjoint := (List.nodup_flatMap.1 hids).2.forall k.mem_all k'.mem_all hne
  exact hdisjoint (List.mem_map_of_mem ht) (he ▸ List.mem_map_of_mem hu)

theorem getElem?_filterMap {α β : Type} {f : α → Option β} {l : List α} (h : ∀ x ∈ l, f x ≠ none) (n : Nat) :
    (l.filterMap f)[n]? = l[n]?.bind f := by
  induction l generalizing n with
  | nil => rfl
  | cons x l ih =>
    cases hx : f x with
    | none => exact absurd hx (h x List.mem_cons_self)
    | some y =>
      rw [List.filterMap_cons_some hx]
      cases n with
      | zero => exact hx.symm
      | succ n => exact ih (fun z hz => h z (List.mem_cons_of_mem x hz)) n

/-- Whether places are filled with some tasks, and each of them is at one place. -/
structure Fills (place : Nat → Option Task) (l : List Task) : Prop where
  mem : ∀ n t, place n = some t → t ∈ l
  found : ∀ t ∈ l, ∃ n, place n = some t
  unique : ∀ n m t u, place n = some t → place m = some u → t.id = u.id → n = m

theorem fills_list {place : Nat → Option Task} {l : List Task} (hids : (l.map (·.id)).Nodup)
    (h : ∀ n, l[n]? = place n) : Fills place l := by
  refine ⟨fun n t ht => ?_, fun t ht => ?_, fun n m t u ht hu he => ?_⟩
  · rw [← h] at ht
    exact List.mem_of_getElem? ht
  · obtain ⟨n, hn⟩ := List.mem_iff_getElem?.1 ht
    exact ⟨n, h n ▸ hn⟩
  · rw [← h] at ht hu
    have hn : (l.map (·.id))[n]? = some t.id := by rw [List.getElem?_map, ht]; rfl
    have hm : (l.map (·.id))[m]? = some t.id := by rw [List.getElem?_map, hu, he]; rfl
    obtain ⟨hlt, -⟩ := List.getElem?_eq_some_iff.1 hn
    exact (List.getElem?_inj hlt hids).1 (hn.trans hm.symm)

theorem Held.fills {clients : Nat → Client} (h : Held clients hands) (hids : ((hands.map (·.2)).map (·.id)).Nodup) :
    Fills (fun i => (clients i).holds?.bind read?) (hands.map (·.2)) := by
  have hplace (i : Nat) (t : Task) : (clients i).holds?.bind read? = some t ↔ (i, t) ∈ hands := by
    constructor
    · intro ht
      obtain ⟨x, hx, hread⟩ := Option.bind_eq_some_iff.1 ht
      obtain ⟨u, hu, rfl⟩ := (h.holds i x).1 hx
      have hu' : read? u.encode = some u := read?_encode (h.sound (i, u) hu)
      obtain rfl : u = t := Option.some.inj (hu'.symm.trans hread)
      exact hu
    · intro ht
      have hread : read? t.encode = some t := read?_encode (h.sound (i, t) ht)
      rw [(h.holds i t.encode).2 ⟨t, ht, rfl⟩, Option.bind_some, hread]
  refine ⟨fun i t ht => ?_, fun t ht => ?_, fun i j t u ht hu he => ?_⟩
  · exact List.mem_map.2 ⟨(i, t), (hplace i t).1 ht, rfl⟩
  · obtain ⟨⟨i, _⟩, hmem, rfl⟩ := List.mem_map.1 ht
    exact ⟨i, (hplace _ _).2 hmem⟩
  · rw [List.map_map] at hids
    have hpair := List.inj_on_of_nodup_map hids ((hplace i t).1 ht) ((hplace j u).1 hu) he
    exact congrArg (·.1) hpair

/-- The places of a shelf are filled with what is on it, and with each of it once. -/
theorem Kept.fills (h : Kept keys w hands) (k : Shelf) : Fills (w.at? keys k) (content keys w hands k) := by
  have hids := h.shelf_ids k
  cases k with
  | pending => exact fills_list hids (getElem?_filterMap fun x hx => h.stocked.read? (.inl hx))
  | processing => exact fills_list hids (getElem?_filterMap fun x hx => h.stocked.read? (.inr (.inl hx)))
  | scheduled => exact fills_list hids (getElem?_filterMap fun x hx => h.stocked.read? (.inr (.inr hx)))
  | dead =>
    refine fills_list hids (getElem?_filterMap fun x hx => ?_)
    obtain ⟨l, hl, rfl⟩ := h.stocked.letters x hx
    rw [readLetter?_encode hl]
    simp
  | acknowledged => exact fills_list hids fun n => rfl
  | hands => exact h.held.fills hids

/-- A task that was put on the queue is at one place. -/
theorem Kept.one_place (h : Kept keys w hands) {t : Task} (ht : t ∈ w.world.enqueued) :
    ∃! p : Shelf × Nat, ∃ n, w.at? keys p.1 p.2 = some (t.withAttempts n) := by
  obtain ⟨u, hu, hbare⟩ := List.mem_map.1 (h.perm.symm.subset (List.mem_map_of_mem (f := bare) ht))
  obtain ⟨k, -, hk⟩ := List.mem_flatMap.1 hu
  obtain ⟨n, hn⟩ := (h.fills k).found u hk
  rw [Consumption.eq_withAttempts hbare] at hn hk
  refine ⟨(k, n), ⟨_, hn⟩, fun ⟨k', n'⟩ ⟨attempts, hn'⟩ => ?_⟩
  obtain rfl : k' = k := h.one_shelf ((h.fills k').mem n' _ hn') hk rfl
  exact congrArg (k', ·) ((h.fills k').unique n' n _ _ hn' hn rfl)

theorem Kept.unsettled_ids (h : Kept keys w hands) : (w.unsettled.map (·.2.task.id)).Nodup := by
  have hread : (w.unsettled.map (·.2.receipt)).filterMap read? = w.unsettled.map (·.2.task) := by
    rw [List.filterMap_map, ← List.filterMap_eq_map]
    refine List.filterMap_congr fun a ha => ?_
    obtain ⟨ht, hreceipt⟩ := h.stocked.receipts a ha
    simp only [Function.comp_apply, hreceipt, read?_encode ht]
  have hperm : (content keys w hands .processing).Perm (w.unsettled.map (·.2.task)) :=
    hread ▸ h.stocked.inflight.filterMap read?
  have hids := (hperm.map (·.id)).nodup_iff.1 (h.shelf_ids .processing)
  rwa [List.map_map] at hids

end

/-- **A task on the queue is at one place**: it waits, or is in flight, or put aside, or dead, or acknowledged, or
with the one client that is about to put it back. So no two deliveries of it are unsettled at the same time. -/
theorem exclusive {start : String} {w : Custody} (h : Reachable (RedisKeys.startingWith start) w) :
    (∀ t ∈ w.world.enqueued, ∃! p : Shelf × Nat,
      ∃ n, w.at? (RedisKeys.startingWith start) p.1 p.2 = some (t.withAttempts n)) ∧
    (w.unsettled.map (·.2.task.id)).Nodup := by
  obtain ⟨hands, hkept⟩ := h.kept (RedisKeys.distinct_startingWith start)
  exact ⟨fun t ht => hkept.one_place ht, hkept.unsettled_ids⟩

/-! ## A task that is tried again -/

/-- What is reached with only the first client at work. -/
structure Lonely (keys : RedisKeys) (w : Custody) (client : Client) (pending processing : List String)
    (aside : List (Int × String)) (enqueued : List Task) (delivered : List Delivery) : Prop where
  reached : Reachable keys w
  alone : World.Alone keys w.world client pending processing aside enqueued delivered

section

variable {keys : RedisKeys} {w : Custody} {p q p' q' : List String} {a a' : List (Int × String)} {e e' : List Task}
  {d d' : List Delivery} {t : Task}

theorem Lonely.start (h : Lonely keys w .idle p q a e d) {c : QueueCall} (may : w.May c) :
    Lonely keys { w with world := w.world.setClient 0 (.busy c (Stage.start c)) } (.busy c (Stage.start c)) p q a e d :=
  ⟨h.reached.step (.start h.alone.client may), h.alone.turn _⟩

theorem Lonely.act {c : QueueCall} {s : Stage c} {x : Client} (h : Lonely keys w (.busy c s) p q a e d)
    (after : World.Alone keys (w.world.act keys .epoch 0 s) x p' q' a' e' d') :
    Lonely keys (w.act keys .epoch 0 s) x p' q' a' e' d' :=
  have hepoch : Moment.epoch.Sound := ⟨by decide, by decide, .inl (by decide)⟩
  ⟨h.reached.step (.act h.alone.client hepoch), after⟩

theorem Lonely.unsettled (ht : t.Sound) (h : Lonely keys w (.busy _ .taking) [t.encode] q a e d) :
    (w.act keys .epoch 0 .taking).unsettled = (0, ⟨t, t.encode⟩) :: w.unsettled := by
  have hreply : (w.world.store.perform (Stage.taking.request keys .epoch)).2 = .text t.encode := by
    simp [Stage.request, Store.perform, Store.step, h.alone.pending, Store.taken?]
  have hnext := World.receive_taking ht
  rw [← hreply] at hnext
  rw [act_unsettled rfl, hnext]
  rfl

theorem Lonely.open (h : Lonely keys w .idle p q a e d) {b : Delivery} {k : Nat} (hb : (k, b) ∈ w.unsettled) :
    w.Open b := by
  refine ⟨⟨k, hb⟩, fun i => ?_⟩
  by_cases hi : i = 0
  · rw [hi, h.alone.client]
    simp [Client.settling?]
  · rw [h.alone.others i hi]
    simp [Client.settling?]

/-- A client can have a task in its hands that is to be tried again. -/
theorem exists_in_hands (hk : keys.Apart) (ht : t.Sound) :
    ∃ w, Reachable keys w ∧ w.world.enqueued = [t] ∧ w.at? keys .hands 0 = some t.next := by
  have h : Lonely keys { world := { store := {} } } .idle [] [] [] [] [] :=
    ⟨.start ⟨rfl, rfl, rfl, rfl⟩, rfl, fun _ _ => rfl, rfl, rfl, rfl, rfl, rfl, rfl⟩
  -- the task is put on the queue
  replace h := h.start (c := .enqueue t) ⟨ht, by simp, fun i u hu => by cases hu⟩
  replace h := h.act (h.alone.adding hk)
  -- it is handed out
  replace h := h.start (c := .dequeue) trivial
  replace h := h.act (h.alone.listing [] rfl)
  have hunsettled := h.unsettled ht
  replace h := h.act (h.alone.taking hk ht)
  -- it is to be tried again at once
  replace h := h.start (c := .retry ⟨t, t.encode⟩ 0) (h.open (hunsettled ▸ List.mem_cons_self))
  replace h := h.act h.alone.rescheduling
  -- it is due, and is taken out of the set
  replace h := h.start (c := .dequeue) trivial
  replace h := h.act (h.alone.listing [t.next.encode] rfl)
  replace h := h.act h.alone.claiming
  refine ⟨_, h.reached, h.alone.enqueued, ?_⟩
  rw [Custody.at?, h.alone.client, Client.holds?, Stage.holds?, Option.bind_some, read?_encode ht.next]

end

theorem sample_exclusive : ∃ w, Reachable (RedisKeys.startingWith "q") w ∧
    w.world.enqueued = [World.sampleTask] ∧
    w.at? (RedisKeys.startingWith "q") .hands 0 = some World.sampleTask.next ∧
    ∃! p : Shelf × Nat, ∃ n, w.at? (RedisKeys.startingWith "q") p.1 p.2 = some (World.sampleTask.withAttempts n) := by
  obtain ⟨w, hw, henqueued, hhands⟩ :=
    exists_in_hands (RedisKeys.apart_startingWith "q") World.sampleTask_sound
  exact ⟨w, hw, henqueued, hhands, (exclusive hw).1 _ (henqueued ▸ List.mem_cons_self)⟩

end Courier.RedisQueue.Custody
