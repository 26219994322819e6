import Courier.Proofs.Redis.Loss
/-
An operation on a queue on a Redis server from its first request to its answer, with no
other client at work and every request done. Time may pass between two requests.

What the store holds for the queue is taken out of it as a value of its own
(`Contents`), and put back (`fill`). Each request is then one equation: what is left of
the operation, on the contents that the request leaves. All that follows from it is an
induction over lists, with no command and no key in it.
-/

namespace Courier.RedisQueue

open Calendar (Moment)
open Redis (Request Reply Store)

/-! ## What a store holds for a queue -/

/-- What is under the keys of a queue: lists with their heads first, and a set. -/
structure Contents where
  pending : List String
  processing : List String
  scheduled : List (Int × String)
  dead : List String

/-- What a store holds for a queue. -/
def contents (keys : RedisKeys) (s : Store) : Contents :=
  ⟨s.lists keys.pending, s.lists keys.processing, s.sets keys.scheduled, s.lists keys.dead⟩

/-- A store with other contents for a queue, and all else as it was. -/
def fill (keys : RedisKeys) (s : Store) (q : Contents) : Store where
  lists k :=
    if k = keys.pending then q.pending
    else if k = keys.processing then q.processing
    else if k = keys.dead then q.dead
    else s.lists k
  sets k := if k = keys.scheduled then q.scheduled else s.sets k

section

variable {keys : RedisKeys} {s : Store} {q : Contents}

@[simp] theorem lists_pending : (fill keys s q).lists keys.pending = q.pending := if_pos rfl

theorem lists_processing (hk : keys.Distinct) :
    (fill keys s q).lists keys.processing = q.processing := by
  have hne : keys.processing ≠ keys.pending := Ne.symm hk.apart
  simp [fill, hne]

theorem lists_dead (hk : keys.Distinct) : (fill keys s q).lists keys.dead = q.dead := by
  simp [fill, hk.dead_pending, hk.dead_processing]

@[simp] theorem sets_scheduled : (fill keys s q).sets keys.scheduled = q.scheduled := if_pos rfl

theorem fill_contents (keys : RedisKeys) (s : Store) : fill keys s (contents keys s) = s := by
  cases s with
  | mk lists sets =>
    simp only [fill, contents, Store.mk.injEq]
    constructor
    · funext k
      split
      · next h => rw [h]
      split
      · next h => rw [h]
      split
      · next h => rw [h]
      · rfl
    · funext k
      split
      · next h => rw [h]
      · rfl

theorem setList_pending (l : List String) :
    (fill keys s q).setList keys.pending l = fill keys s { q with pending := l } := by
  simp only [fill, Store.setList, Store.mk.injEq, and_true]
  funext k
  split <;> rfl

theorem setList_processing (hk : keys.Distinct) (l : List String) :
    (fill keys s q).setList keys.processing l = fill keys s { q with processing := l } := by
  simp only [fill, Store.setList, Store.mk.injEq, and_true]
  funext k
  by_cases h : k = keys.processing
  · have hne : keys.processing ≠ keys.pending := Ne.symm hk.apart
    simp [h, hne]
  · simp [h]

theorem setList_dead (hk : keys.Distinct) (l : List String) :
    (fill keys s q).setList keys.dead l = fill keys s { q with dead := l } := by
  simp only [fill, Store.setList, Store.mk.injEq, and_true]
  funext k
  by_cases h : k = keys.dead
  · simp [h, hk.dead_pending, hk.dead_processing]
  · simp [h]

theorem setSet_scheduled (l : List (Int × String)) :
    (fill keys s q).setSet keys.scheduled l = fill keys s { q with scheduled := l } := by
  simp only [fill, Store.setSet, Store.mk.injEq, true_and]
  funext k
  split <;> rfl

/-! ## What each request does to the contents -/

variable (clock : Moment)

theorem perform_listing (keys : RedisKeys) (s : Store) (q : Contents) (clock : Moment) :
    (fill keys s q).perform (Stage.listing.request keys clock) =
      (fill keys s q,
        .list (((q.scheduled.takeWhile (·.1 ≤ Redis.asDouble clock.unixMillis)).take promotionLimit
          |>.map (·.2)).map .text)) := by
  simp only [Stage.request, Store.perform, Store.step, sets_scheduled, List.map_map]
  rfl

theorem perform_claiming {raw : String} {rest : List String} (distinct : (q.scheduled.map (·.2)).Nodup) :
    (fill keys s q).perform ((Stage.claiming raw rest).request keys clock) =
      (fill keys s { q with scheduled := q.scheduled.filter (·.2 ≠ raw) },
        .int (if raw ∈ q.scheduled.map (·.2) then 1 else 0)) := by
  have hmembers : (fill keys s q).members keys.scheduled = q.scheduled.map (·.2) := by
    rw [Store.members, sets_scheduled]
  refine Prod.ext ?_ ?_
  · simp only [Stage.request, Store.perform, Store.step, sets_scheduled, setSet_scheduled]
  · rw [← hmembers] at distinct ⊢
    exact Store.reply_unscore raw distinct

theorem perform_promoting {raw : String} {rest : List String} :
    (fill keys s q).perform ((Stage.promoting raw rest).request keys clock) =
      (fill keys s { q with pending := raw :: q.pending }, .int (raw :: q.pending).length) := by
  simp only [Stage.request, Store.perform, Store.step, lists_pending, setList_pending]

theorem perform_taking_none (h : q.pending = []) :
    (fill keys s q).perform (Stage.taking.request keys clock) = (fill keys s q, .nothing) := by
  simp only [Stage.request, Store.perform, Store.step, lists_pending, h, Store.taken?, List.getLast?_nil, Option.map_none]

theorem perform_taking_some (hk : keys.Distinct) {raw : String} {rest : List String} (h : q.pending = rest ++ [raw]) :
    (fill keys s q).perform (Stage.taking.request keys clock) =
      (fill keys s { q with pending := rest, processing := raw :: q.processing }, .text raw) := by
  simp only [Stage.request, Store.perform, Store.step, lists_pending, h, Store.taken?, List.getLast?_concat, Option.map_some,
    List.dropLast_concat, setList_pending, lists_processing hk, setList_processing hk, Store.added]

/-- An entry in flight is removed, once, and a text is put in front of the dead letters. -/
theorem perform_bury (hk : keys.Distinct) (raw record : String) :
    (fill keys s q).perform (.block [.remove keys.processing raw, .push keys.dead record]) =
      (fill keys s { q with processing := q.processing.erase raw, dead := record :: q.dead },
        .list [.int (if raw ∈ q.processing then 1 else 0), .int (record :: q.dead).length]) := by
  simp only [Store.perform, Store.steps, Store.step, lists_processing hk, setList_processing hk, lists_dead hk,
    setList_dead hk]

theorem perform_recovering_none (hk : keys.Distinct) {n : Nat} (h : q.processing = []) :
    (fill keys s q).perform ((Stage.recovering n).request keys clock) = (fill keys s q, .nothing) := by
  simp only [Stage.request, Store.perform, Store.step, lists_processing hk, h, Store.taken?, List.getLast?_nil,
    Option.map_none]

theorem perform_recovering_some (hk : keys.Distinct) {n : Nat} {raw : String} {rest : List String}
    (h : q.processing = rest ++ [raw]) :
    (fill keys s q).perform ((Stage.recovering n).request keys clock) =
      (fill keys s { q with pending := q.pending ++ [raw], processing := rest }, .text raw) := by
  simp only [Stage.request, Store.perform, Store.step, lists_processing hk, h, Store.taken?, List.getLast?_concat,
    Option.map_some, List.dropLast_concat, setList_processing hk, lists_pending, setList_pending, Store.added]

end

/-! ## Requests one after the other -/

/-- The moment of the next request; requests are counted. -/
def tick (clock : Nat → Moment) : StateM (Nat × Store) Moment := fun w => (clock w.1, w)

/-- A server without another client. -/
def serve (r : Request) : StateM (Nat × Store) Reply := fun w => ((w.2.perform r).2, w.1 + 1, (w.2.perform r).1)

/-- What is left of an operation after some requests, if the server answers so many more: the
answer, and the store at the end. -/
def proceed (keys : RedisKeys) (clock : Nat → Moment) {c : QueueCall} (limit n : Nat) (st : Stage c) (s : Store) :
    Option c.Answer × Store :=
  let r := Id.run <| StateT.run (Stage.runUpTo (m := StateM (Nat × Store)) keys (tick clock) serve limit st) (n, s)
  (r.1, r.2.2)

/-- A whole operation, the moment of each request given by its number. -/
def conduct (keys : RedisKeys) (clock : Nat → Moment) (c : QueueCall) (limit : Nat) (s : Store) :
    Option c.Answer × Store :=
  proceed keys clock limit 0 (Stage.start c) s

section

variable {keys : RedisKeys} {clock : Nat → Moment} {c : QueueCall} {limit n : Nat} {st : Stage c}
  {s s' : Store} {r : Reply}

theorem proceed_succ : proceed keys clock (limit + 1) n st s =
    match st.receive (s.perform (st.request keys (clock n))).2 with
    | .stage st' => proceed keys clock limit (n + 1) st' (s.perform (st.request keys (clock n))).1
    | .finished a => (some a, (s.perform (st.request keys (clock n))).1) := by
  simp only [proceed, Stage.runUpTo, tick, serve, bind, StateT.bind, StateT.run, Id.run]
  cases st.receive (s.perform (st.request keys (clock n))).2 <;> rfl

/-- A reply without an error in it is taken as it is. -/
theorem receive_of_checked {next : Stage.Next c} (hr : r.error? = none) (h : Stage.receiveChecked r st = .ok next) :
    st.receive r = next := by
  have hbind : (r.checked.bind fun r => Stage.receiveChecked r st) = .ok next := by
    rw [Reply.checked, hr]
    exact h
  rw [Stage.receive, hbind]

/-- A reply that the operation goes on after. -/
theorem proceed_stage {st' : Stage c} (hreq : s.perform (st.request keys (clock n)) = (s', r))
    (hnext : st.receive r = .stage st') :
    proceed keys clock (limit + 1) n st s = proceed keys clock limit (n + 1) st' s' := by
  rw [proceed_succ, hreq, hnext]

/-- A reply that the operation ends with. -/
theorem proceed_finished {a : c.Answer} (hreq : s.perform (st.request keys (clock n)) = (s', r))
    (hnext : st.receive r = .finished a) : proceed keys clock (limit + 1) n st s = (some a, s') := by
  rw [proceed_succ, hreq, hnext]

/-- A whole operation at one moment is one whose requests are all made at that moment. -/
theorem perform_eq_conduct (now : Moment) (c : QueueCall) (s : Store) :
    perform keys now c s = conduct keys (fun _ => now) c (requestLimit keys s) s := by
  let server (r : Request) : StateM Store Reply := modifyGet fun s => ((s.perform r).2, (s.perform r).1)
  suffices hall : ∀ limit n (st : Stage c) (s : Store),
      Id.run (StateT.run (Stage.runUpTo keys (pure now) server limit st) s) = proceed keys (fun _ => now) limit n st s from
    hall _ 0 _ s
  intro limit
  induction limit with
  | zero => exact fun _ _ _ => rfl
  | succ limit ih =>
    intro n st s
    rw [proceed_succ, Stage.runUpTo]
    show (match st.receive (s.perform (st.request keys now)).2 with
      | .stage st' => Stage.runUpTo keys (pure now) server limit st'
      | .finished a => pure (some a)) (s.perform (st.request keys now)).1 = _
    cases st.receive (s.perform (st.request keys now)).2 with
    | stage st' => exact ih (n + 1) st' _
    | finished a => rfl

end

end Courier.RedisQueue
