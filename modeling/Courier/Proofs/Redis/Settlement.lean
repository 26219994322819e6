import Courier.Proofs.Redis.Dequeue
/-
What the end of a delivery does to a queue on a Redis server. The entry in flight is known
by its text, and the text is whatever the task was read from; what is put aside or given up
is written anew. So it matters that the text of the delivery is the one that was moved, and
that removing it removes one entry and no more.
-/

namespace Courier.RedisQueue

open Calendar (Moment)
open Redis (Store Reply Ranked)

/-- One entry with a text is gone, the first one, and all others are as they were. -/
def OneGone (raw : String) (entries rest : List String) : Prop :=
  ∃ front back, raw ∉ front ∧ entries = front ++ raw :: back ∧ rest = front ++ back

/-- A member of a set was given a score, and all others are as they were. -/
structure Scored (member : String) (score : Int) (old new : List (Int × String)) : Prop where
  members : new.Perm ((score, member) :: old.filter (·.2 ≠ member))
  ranked : Ranked old → Ranked new

/-- What each way to settle a delivery does to a queue from which one entry in flight is gone. -/
structure Settles (keys : RedisKeys) (clock : Nat → Moment) (limit : Nat) (s : Store) (d : Delivery)
    (rest : List String) : Prop where
  ack : conduct keys clock (.ack d) limit s = (some (.ok ()), fill keys s { contents keys s with processing := rest })
  retry : ∀ wait, d.task.attempts < Task.maxAttempts → ∃ again scheduled,
    again = (d.task.withAttempts (d.task.attempts + 1)).encode ∧
    Task.decode again = .ok (d.task.withAttempts (d.task.attempts + 1)) ∧ again ≠ d.receipt ∧
    Scored again (Redis.asDouble (dueTime (clock 0) wait)) (s.sets keys.scheduled) scheduled ∧
    conduct keys clock (.retry d wait) limit s =
      (some (.ok ()), fill keys s { contents keys s with processing := rest, scheduled := scheduled })
  /-- A time of 64 bits is the time of the settlement and the wait after it. -/
  due : ∀ wait : Nat, -2 ^ 63 ≤ (clock 0).unixMillis + wait → (clock 0).unixMillis + wait < 2 ^ 63 →
    dueTime (clock 0) wait = (clock 0).unixMillis + wait
  /-- Up to 2^53 it is the very score that is kept. -/
  kept : ∀ wait : Nat, (clock 0).unixMillis + wait ≤ 2 ^ 53 →
    Redis.asDouble (dueTime (clock 0) wait) = (clock 0).unixMillis + wait
  deadLetter : ∀ reason, ∃ record, DeadLetter.decode record = .ok ⟨d.task, reason, clock 0⟩ ∧
    conduct keys clock (.deadLetter d reason) limit s =
      (some (.ok ()), fill keys s { contents keys s with processing := rest, dead := record :: s.lists keys.dead })

theorem oneGone_erase {raw : String} {entries : List String} (h : raw ∈ entries) :
    OneGone raw entries (entries.erase raw) := by
  obtain ⟨front, back, hfront, hsplit, herase⟩ := List.exists_erase_eq h
  exact ⟨front, back, hfront, hsplit, herase⟩

theorem dueTime_eq {now : Moment} {wait : Nat} (hlow : -2 ^ 63 ≤ now.unixMillis + wait)
    (hhigh : now.unixMillis + wait < 2 ^ 63) : dueTime now wait = now.unixMillis + wait := by
  rw [dueTime, cut64, cut64, Int.add_bmod_bmod]
  exact Int.bmod_eq_of_le (by omega) (by omega)

/-- A time up to 2^53 is kept as it is. -/
theorem asDouble_dueTime {now : Moment} {wait : Nat} (hnow : now.Sound) (h : now.unixMillis + wait ≤ 2 ^ 53) :
    Redis.asDouble (dueTime now wait) = now.unixMillis + wait := by
  have hbounds := hnow.unixMillis_bounds
  rw [dueTime_eq (by omega) (by omega)]
  exact Redis.asDouble_eq (by omega)

theorem scored_insertMember (member : String) (score : Int) (old : List (Int × String)) :
    Scored member score old (Store.insertMember (score, member) (old.filter (·.2 ≠ member))) :=
  ⟨Store.perm_insertMember _ _, fun h => (h.filter _).insert (by simp)⟩

section

variable {keys : RedisKeys} {clock : Nat → Moment} {s : Store} {q : Contents} {d : Delivery} {limit : Nat}

theorem perform_releasing (hk : keys.Distinct) (now : Moment) :
    (fill keys s q).perform ((Stage.releasing d).request keys now) =
      (fill keys s { q with processing := q.processing.erase d.receipt },
        .int (if d.receipt ∈ q.processing then 1 else 0)) := by
  simp only [Stage.request, Store.perform, Store.step, lists_processing hk, setList_processing hk]

theorem perform_rescheduling (hk : keys.Distinct) (now : Moment) (wait : Nat) :
    let others := q.scheduled.filter (·.2 ≠ d.task.next.encode)
    (fill keys s q).perform ((Stage.rescheduling d wait).request keys now) =
      (fill keys s { q with
        processing := q.processing.erase d.receipt
        scheduled := Store.insertMember (Redis.asDouble (dueTime now wait), d.task.next.encode) others },
        .list [.int (if d.receipt ∈ q.processing then 1 else 0),
          .int (if others.length = q.scheduled.length then 1 else 0)]) := by
  simp only [Stage.request, Store.perform, Store.steps, Store.step, lists_processing hk, setList_processing hk,
    sets_scheduled, setSet_scheduled]

theorem receive_releasing (n : Int) : (Stage.releasing d).receive (.int n) = .finished (.ok ()) :=
  receive_of_checked rfl rfl

theorem receive_rescheduling (wait : Nat) (m n : Int) :
    (Stage.rescheduling d wait).receive (.list [.int m, .int n]) = .finished (.ok ()) :=
  receive_of_checked rfl rfl

theorem receive_abandoning (reason : String) (m n : Int) :
    (Stage.abandoning d reason).receive (.list [.int m, .int n]) = .finished (.ok ()) :=
  receive_of_checked rfl rfl

/-- One request settles a delivery. -/
theorem settles_erase (hk : keys.Distinct) (hclock : (clock 0).Sound) (hd : Task.decode d.receipt = .ok d.task)
    (hlimit : 0 < limit) : Settles keys clock limit s d ((s.lists keys.processing).erase d.receipt) := by
  obtain ⟨limit, rfl⟩ : ∃ k, limit = k + 1 := ⟨limit - 1, by omega⟩
  have hsound : d.task.Sound := Task.decode_sound hd
  have hfill := fill_contents keys s
  refine ⟨?_, fun wait hwait => ?_, fun wait => dueTime_eq, fun wait => asDouble_dueTime hclock, fun reason => ?_⟩
  · have hrelease := perform_releasing (s := s) (q := contents keys s) (d := d) hk (clock 0)
    rw [hfill] at hrelease
    exact proceed_finished hrelease (receive_releasing _)
  · have hnext := Task.next_of_lt hwait
    have hdecode : Task.decode d.task.next.encode = .ok d.task.next := Task.decode_encode hsound.next
    have hreschedule := perform_rescheduling (s := s) (q := contents keys s) (d := d) hk (clock 0) wait
    rw [hfill] at hreschedule
    refine ⟨d.task.next.encode, _, by rw [hnext], hnext ▸ hdecode, fun heq => ?_, scored_insertMember _ _ _,
      proceed_finished hreschedule (receive_rescheduling _ _ _)⟩
    -- a text is read as one task only
    rw [heq, hd, hnext] at hdecode
    have hattempts : d.task.attempts = d.task.attempts + 1 := congrArg Task.attempts (Except.ok.inj hdecode)
    omega
  · have hbury := perform_bury (s := s) (q := contents keys s) hk d.receipt (DeadLetter.encode ⟨d.task, reason, clock 0⟩)
    rw [hfill] at hbury
    exact ⟨_, DeadLetter.decode_encode ⟨hsound, hclock⟩, proceed_finished hbury (receive_abandoning _ _ _)⟩

end

/-- **Settling a delivery touches its own entry only.** A task that was handed out is the one that its
text is read as, and the text is in flight. As long as it is, and whatever else the queue holds, the
delivery is settled with one of its entries gone from those in flight: `ack` changes nothing else;
`retry` gives the text of the next attempt its due time, and leaves every other member of the set;
`deadLetter` adds a record of the task and the reason. -/
theorem settling_touches_one_entry (start : String) {raw : String} {t : Task} (hraw : Task.decode raw = .ok t) :
    let keys := RedisKeys.startingWith start
    (∀ clock limit s s' d, conduct keys clock .dequeue limit s = (some (.ok (some d)), s') → d.receipt = raw →
      d = ⟨t, raw⟩ ∧ raw ∈ s'.lists keys.processing) ∧
    ∀ s, raw ∈ s.lists keys.processing → ∃ rest, OneGone raw (s.lists keys.processing) rest ∧
      ∀ clock limit, (clock 0).Sound → 0 < limit → Settles keys clock limit s ⟨t, raw⟩ rest := by
  intro keys
  have hk := RedisKeys.distinct_startingWith start
  refine ⟨fun clock limit s s' d hrun hd => ?_, fun s hin => ?_⟩
  · obtain ⟨hdecode, hmem⟩ := proceed_dequeue_some hk hrun
    obtain ⟨task, receipt⟩ := d
    obtain rfl : receipt = raw := hd
    obtain rfl : t = task := Except.ok.inj (hraw.symm.trans hdecode)
    exact ⟨rfl, hmem⟩
  · exact ⟨_, oneGone_erase hin, fun clock limit hclock hlimit => settles_erase hk hclock hraw hlimit⟩

/-- A text of a task as another program might write it: spaced, in another order, with a field of its
own and without the count. -/
def foreignText : String :=
  "\x7b \"payload\" : \"a\", \"kind\": \"message\", \"shard\": 3,\n \"enqueued_at\": \"1970-01-01T00:00:00Z\", \"id\": \"00000000-0000-0000-0000-0000000003e8\" \x7d"

/-- The task was read from that text, which is in flight twice, as is the text that the task is written with. -/
theorem settling_foreign_text :
    let keys := RedisKeys.startingWith "push_relay:tasks"
    let entries := [World.sampleTask.encode, foreignText, foreignText]
    let s := fill keys {} ⟨[], entries, [], []⟩
    Task.decode foreignText = .ok World.sampleTask ∧ foreignText ∈ s.lists keys.processing ∧
      ∃ rest, OneGone foreignText entries rest ∧ Settles keys (fun _ => .epoch) 1 s ⟨World.sampleTask, foreignText⟩ rest := by
  intro keys entries s
  have hraw : Task.decode foreignText = .ok World.sampleTask := by decide +kernel
  have hprocessing : s.lists keys.processing = entries := lists_processing (RedisKeys.distinct_startingWith _)
  have hin : foreignText ∈ s.lists keys.processing := by
    rw [hprocessing]
    exact List.mem_cons_of_mem _ (List.mem_cons_self ..)
  obtain ⟨rest, hgone, hsettles⟩ := (settling_touches_one_entry "push_relay:tasks" hraw).2 s hin
  rw [hprocessing] at hgone
  exact ⟨hraw, hin, rest, hgone, hsettles _ 1 World.sampleTask_sound.enqueuedAt (by decide)⟩

end Courier.RedisQueue
