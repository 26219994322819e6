import Courier.Proofs.Redis.Dequeue
/-
What comes back of the tasks that one client left in flight. They are taken from the oldest
one on and put at the end of the line from which the next task is taken. So they all come
back, and before the tasks that still wait; but each one is put before those that came back
earlier, and they stand in the line in the opposite order. The line is what it was if and
only if that makes no difference.
-/

namespace Courier.RedisQueue

open Calendar (Moment)
open Redis (Store Reply)

/-- What a client leaves that asks for a task time and again, each time with a clock of its own. -/
def dequeues (keys : RedisKeys) : List (Nat → Moment) → Store → Store
  | [], s => s
  | clock :: clocks, s => dequeues keys clocks (conduct keys clock .dequeue (requestLimit keys s) s).2

section

variable {keys : RedisKeys} {clock : Nat → Moment} {s : Store} {q : Contents}

theorem receive_recovering (n : Nat) (raw : String) :
    (Stage.recovering n).receive (.text raw) = .stage (.recovering (n + 1)) :=
  receive_of_checked rfl rfl

theorem receive_recovered (n : Nat) : (Stage.recovering n).receive .nothing = .finished (.ok n) :=
  receive_of_checked rfl rfl

/-- The entries in flight, the oldest first, are put one after the other at the end of the line. -/
theorem proceed_recovering (hk : keys.Distinct) (clock : Nat → Moment) (s : Store) {flight : List String}
    (hq : q.processing = flight.reverse) (limit n k : Nat) (hlimit : flight.length < limit) :
    proceed keys clock limit n (Stage.recovering k) (fill keys s q) = (some (.ok (k + flight.length)),
      fill keys s { q with pending := q.pending ++ flight, processing := [] }) := by
  induction flight generalizing q limit n k with
  | nil =>
    obtain ⟨limit, rfl⟩ : ∃ l, limit = l + 1 := ⟨limit - 1, by omega⟩
    rw [proceed_finished (perform_recovering_none _ hk hq) (receive_recovered k)]
    obtain ⟨pending, processing, scheduled, dead⟩ := q
    obtain rfl : processing = [] := hq
    rw [List.append_nil]
    rfl
  | cons raw flight ih =>
    rw [List.reverse_cons] at hq
    rw [List.length_cons] at hlimit
    obtain ⟨limit, rfl⟩ : ∃ l, limit = l + 1 := ⟨limit - 1, by omega⟩
    have hrest := ih (q := { q with pending := q.pending ++ [raw], processing := flight.reverse }) rfl
      limit (n + 1) (k + 1) (by omega)
    rw [proceed_stage (perform_recovering_some _ hk hq) (receive_recovering k raw), hrest, List.append_assoc,
      List.singleton_append, List.length_cons, Nat.add_assoc, Nat.add_comm 1]

/-- Nothing is put back if nothing is due. -/
theorem conduct_dequeue_nothing_due (hdue : ∀ m ∈ q.scheduled, Redis.asDouble (clock 0).unixMillis < m.1) (limit : Nat) :
    conduct keys clock .dequeue (limit + 1) (fill keys s q) = proceed keys clock limit 1 Stage.taking (fill keys s q) := by
  have hnone : q.scheduled.takeWhile (·.1 ≤ Redis.asDouble (clock 0).unixMillis) = [] := by
    cases h : q.scheduled with
    | nil => rfl
    | cons m ms =>
      have hm := hdue m (by simp [h])
      rw [List.takeWhile_cons_of_neg (by simpa using hm)]
  have hlist := perform_listing keys s q (clock 0)
  rw [hnone] at hlist
  exact proceed_stage hlist (World.receive_listing [])

/-- Nothing is taken off an empty line. -/
theorem conduct_dequeue_empty (hdue : ∀ m ∈ q.scheduled, Redis.asDouble (clock 0).unixMillis < m.1) (hq : q.pending = [])
    (limit : Nat) : conduct keys clock .dequeue (limit + 1 + 1) (fill keys s q) = (some (.ok none), fill keys s q) := by
  rw [conduct_dequeue_nothing_due hdue, proceed_finished (perform_taking_none _ hq) receive_nothing]

/-- The oldest entry of the line is taken, if it is a task. -/
theorem conduct_dequeue_task (hk : keys.Distinct) (hdue : ∀ m ∈ q.scheduled, Redis.asDouble (clock 0).unixMillis < m.1)
    {raw : String} {rest : List String} (hq : q.pending = rest ++ [raw]) {t : Task} (hraw : Task.decode raw = .ok t)
    (limit : Nat) : conduct keys clock .dequeue (limit + 1 + 1) (fill keys s q) =
      (some (.ok (some ⟨t, raw⟩)), fill keys s { q with pending := rest, processing := raw :: q.processing }) := by
  rw [conduct_dequeue_nothing_due hdue, proceed_finished (perform_taking_some _ hk hq) (receive_task hraw)]

/-- Each time one entry is taken, as long as there are any. -/
theorem dequeues_fill (hk : keys.Distinct) (s : Store) (line : List String) (hq : q.pending = line.reverse)
    (clocks : List (Nat → Moment))
    (hdue : ∀ clock ∈ clocks, ∀ m ∈ q.scheduled, Redis.asDouble (clock 0).unixMillis < m.1)
    (htasks : ∀ raw ∈ line.take clocks.length, ∃ t, Task.decode raw = .ok t) :
    dequeues keys clocks (fill keys s q) = fill keys s { q with
      pending := (line.drop clocks.length).reverse
      processing := (line.take clocks.length).reverse ++ q.processing } := by
  induction clocks generalizing q line with
  | nil => simp [dequeues, ← hq]
  | cons clock clocks ih =>
    have hclock := hdue clock (List.mem_cons_self ..)
    have hclocks : ∀ clock ∈ clocks, ∀ m ∈ q.scheduled, Redis.asDouble (clock 0).unixMillis < m.1 :=
      fun c hc => hdue c (List.mem_cons_of_mem _ hc)
    obtain ⟨limit, hlimit⟩ : ∃ limit, requestLimit keys (fill keys s q) = limit + 1 + 1 :=
      ⟨requestLimit keys (fill keys s q) - 2, by simp only [requestLimit]; omega⟩
    rw [dequeues, hlimit]
    cases line with
    | nil =>
      rw [conduct_dequeue_empty hclock hq, ih [] hq hclocks (by simp)]
      simp
    | cons raw line =>
      rw [List.reverse_cons] at hq
      obtain ⟨t, hraw⟩ := htasks raw (by simp)
      have hrest := ih (q := { q with pending := line.reverse, processing := raw :: q.processing }) line rfl
        hclocks fun r hr => htasks r (by simp [hr])
      rw [conduct_dequeue_task hk hclock hq hraw]
      refine hrest.trans ?_
      simp

/-- A client that takes tasks and settles none leaves them in flight, the last one first. -/
theorem dequeues_of_tasks (hk : keys.Distinct) (hnone : s.lists keys.processing = []) (clocks : List (Nat → Moment))
    (hdue : ∀ clock ∈ clocks, ∀ m ∈ s.sets keys.scheduled, Redis.asDouble (clock 0).unixMillis < m.1) {taken rest : List String}
    (htaken : (s.lists keys.pending).reverse.take clocks.length = taken)
    (hrest : (s.lists keys.pending).reverse.drop clocks.length = rest)
    (htasks : ∀ raw ∈ taken, ∃ t, Task.decode raw = .ok t) :
    dequeues keys clocks s =
      fill keys s { contents keys s with pending := rest.reverse, processing := taken.reverse } := by
  have hrun := dequeues_fill (q := contents keys s) hk s _ (List.reverse_reverse (s.lists keys.pending)).symm clocks
    hdue (htaken ▸ htasks)
  rw [fill_contents, htaken, hrest] at hrun
  simpa only [contents, hnone, List.append_nil] using hrun

/-- All that is in flight comes back, before the tasks that still wait. -/
theorem conduct_recover (hk : keys.Distinct) {flight : List String} (hq : q.processing = flight.reverse) {limit : Nat}
    (hlimit : requestLimit keys (fill keys s q) ≤ limit) :
    conduct keys clock .recover limit (fill keys s q) =
      (some (.ok flight.length), fill keys s { q with pending := q.pending ++ flight, processing := [] }) := by
  have hroom : flight.length < limit := by
    simp only [requestLimit, lists_processing hk, hq, List.length_reverse] at hlimit
    omega
  have hrecover := proceed_recovering hk clock s hq limit 0 0 hroom
  rw [Nat.zero_add] at hrecover
  exact hrecover

/-- The line is what it was exactly if the texts that were taken are the same in both orders. -/
theorem line_reversed_iff {taken rest : List String} (h : (s.lists keys.pending).reverse = taken ++ rest) :
    (taken.reverse ++ rest).reverse = s.lists keys.pending ↔ taken.reverse = taken := by
  rw [← List.reverse_inj, List.reverse_reverse, h]
  exact List.append_left_inj rest

end

/-- **What comes back of tasks that were taken and not settled.** All of them do, before those that still
wait, and nothing else changes. But the last one that was taken comes out first: the line is what it
was if and only if the texts that were taken are the same in both orders. -/
theorem recover_after_dequeues (start : String) {s : Store} (hnone : s.lists (RedisKeys.startingWith start).processing = [])
    (clocks : List (Nat → Moment))
    (hdue : ∀ clock ∈ clocks, ∀ m ∈ s.sets (RedisKeys.startingWith start).scheduled, Redis.asDouble (clock 0).unixMillis < m.1)
    {taken rest : List String} (htaken : (s.lists (RedisKeys.startingWith start).pending).reverse.take clocks.length = taken)
    (hrest : (s.lists (RedisKeys.startingWith start).pending).reverse.drop clocks.length = rest)
    (htasks : ∀ raw ∈ taken, ∃ t, Task.decode raw = .ok t) (clock : Nat → Moment) {limit : Nat}
    (hlimit : requestLimit (.startingWith start) (dequeues (.startingWith start) clocks s) ≤ limit) :
    let keys := RedisKeys.startingWith start
    (dequeues keys clocks s).lists keys.processing = taken.reverse ∧
      ∃ s', conduct keys clock .recover limit (dequeues keys clocks s) = (some (.ok taken.length), s') ∧
        s' = fill keys s { contents keys s with pending := (taken.reverse ++ rest).reverse } ∧
        (s'.lists keys.pending = s.lists keys.pending ↔ taken.reverse = taken) := by
  intro keys
  have hk := RedisKeys.distinct_startingWith start
  have hrun : dequeues keys clocks s = _ := dequeues_of_tasks hk hnone clocks hdue htaken hrest htasks
  have hafter : fill keys s { contents keys s with pending := rest.reverse ++ taken, processing := [] } =
      fill keys s { contents keys s with pending := (taken.reverse ++ rest).reverse } := by
    rw [List.reverse_append, List.reverse_reverse, ← hnone]
    rfl
  rw [hrun] at hlimit ⊢
  refine ⟨lists_processing hk, _, conduct_recover hk rfl hlimit, hafter, ?_⟩
  rw [hafter, lists_pending]
  exact line_reversed_iff (by rw [← htaken, ← hrest, List.take_append_drop])

/-- Another task. -/
def laterTask : Task := { World.sampleTask with payload := "b" }

theorem laterTask_sound : laterTask.Sound :=
  ⟨World.sampleTask_sound.id, World.sampleTask_sound.attempts, World.sampleTask_sound.enqueuedAt⟩

theorem sample_ne_later : World.sampleTask.encode ≠ laterTask.encode := by
  intro heq
  have hdecode := Task.decode_encode World.sampleTask_sound
  rw [heq, Task.decode_encode laterTask_sound] at hdecode
  exact absurd hdecode (by decide)

/-- A queue on which two tasks wait. -/
def twoWaiting : Store :=
  fill (.startingWith "push_relay:tasks") {} ⟨[laterTask.encode, World.sampleTask.encode], [], [], []⟩

theorem twoWaiting_tasks {raw : String} (h : raw ∈ [World.sampleTask.encode, laterTask.encode]) :
    ∃ t, Task.decode raw = .ok t := by
  simp only [List.mem_cons, List.not_mem_nil, or_false] at h
  rcases h with rfl | rfl
  · exact ⟨_, Task.decode_encode World.sampleTask_sound⟩
  · exact ⟨_, Task.decode_encode laterTask_sound⟩

theorem twoWaiting_processing : twoWaiting.lists (RedisKeys.startingWith "push_relay:tasks").processing = [] :=
  lists_processing (RedisKeys.distinct_startingWith _)

/-- Both tasks are taken, and come back in the opposite order. -/
theorem recover_two :
    let keys := RedisKeys.startingWith "push_relay:tasks"
    let clock : Nat → Moment := fun _ => .epoch
    let s := dequeues keys [clock, clock] twoWaiting
    ∃ s', conduct keys clock .recover (requestLimit keys s) s = (some (.ok (2 : Nat)), s') ∧
      s' = fill keys twoWaiting { contents keys twoWaiting with pending := [World.sampleTask.encode, laterTask.encode] } ∧
      s'.lists keys.pending ≠ twoWaiting.lists keys.pending := by
  intro keys clock s
  obtain ⟨-, s', hrun, hs', hiff⟩ := recover_after_dequeues "push_relay:tasks" twoWaiting_processing [clock, clock]
    (by intro c _ m hm; cases hm) rfl rfl (fun raw => twoWaiting_tasks) clock (Nat.le_refl _)
  refine ⟨s', hrun, hs', fun hsame => sample_ne_later ?_⟩
  exact (List.cons.inj (hiff.1 hsame)).1.symm

/-- The line is not always what it was. -/
theorem not_recover_restores : ¬ ∀ (s : Store) (clocks : List (Nat → Moment)),
    let keys := RedisKeys.startingWith "push_relay:tasks"
    s.lists keys.processing = [] →
    (∀ clock ∈ clocks, ∀ m ∈ s.sets keys.scheduled, Redis.asDouble (clock 0).unixMillis < m.1) →
    (∀ raw ∈ (s.lists keys.pending).reverse.take clocks.length, ∃ t, Task.decode raw = .ok t) →
    ∀ clock limit, requestLimit keys (dequeues keys clocks s) ≤ limit →
      (conduct keys clock .recover limit (dequeues keys clocks s)).2.lists keys.pending = s.lists keys.pending := by
  intro hall
  have hk := RedisKeys.distinct_startingWith "push_relay:tasks"
  have hdue : ∀ clock ∈ [fun _ => Moment.epoch, fun _ : Nat => Moment.epoch],
      ∀ m ∈ twoWaiting.sets (RedisKeys.startingWith "push_relay:tasks").scheduled, Redis.asDouble (clock 0).unixMillis < m.1 := by
    intro c _ m hm
    cases hm
  have hsame := hall twoWaiting [fun _ => .epoch, fun _ => .epoch] twoWaiting_processing hdue (fun raw => twoWaiting_tasks)
    (fun _ => .epoch) _ (Nat.le_refl _)
  rw [dequeues_of_tasks hk twoWaiting_processing _ hdue rfl rfl (fun raw => twoWaiting_tasks),
    conduct_recover hk rfl (Nat.le_refl _)] at hsame
  simp only [lists_pending, twoWaiting] at hsame
  exact sample_ne_later (List.cons.inj hsame).1

end Courier.RedisQueue
