import Mathlib.Data.List.TakeWhile
import Courier.Proofs.Json.RoundTrip
import Courier.Proofs.Redis.Retention
import Courier.Proofs.Redis.Score
import Courier.Proofs.Redis.Solo
/-
What one client takes off a queue on a Redis server. First the tasks that are due are put
behind the waiting ones, the earliest first and never more than a fixed number of them. Then
the line is gone through from its oldest entry on. An entry that is no task is given up, with
a record that holds its text; the first one that is a task is handed out.

The entries that were given up leave no trace among those in flight, although an entry in
flight is found again by its text only and the same text may be in flight already: what was
moved last stands in front, and the first equal text is the one that is removed.
-/

namespace Courier.Redis

/-! ## Sets -/

/-- Members with scores as a server keeps them: no member twice, the lowest score first. -/
structure Ranked (members : List (Int × String)) : Prop where
  distinct : (members.map (·.2)).Nodup
  ordered : members.Pairwise fun m n => Store.before m n

namespace Store

theorem before_iff {m n : Int × String} : before m n ↔ m.1 < n.1 ∨ m.1 = n.1 ∧ m.2 < n.2 := by
  simp [before]

theorem before_trans {l m n : Int × String} (hlm : before l m) (hmn : before m n) : before l n := by
  rw [before_iff] at *
  rcases hlm with h | ⟨h, hs⟩ <;> rcases hmn with h' | ⟨h', hs'⟩
  · exact .inl (by omega)
  · exact .inl (by omega)
  · exact .inl (by omega)
  · exact .inr ⟨by omega, String.lt_trans hs hs'⟩

/-- Of two different members one is before the other. -/
theorem before_of_not_before {m n : Int × String} (hne : m.2 ≠ n.2) (h : ¬ before m n) : before n m := by
  rw [before_iff, not_or, not_and] at h
  rw [before_iff]
  by_cases heq : m.1 = n.1
  · refine .inr ⟨heq.symm, Decidable.not_not.1 fun hs => hne ?_⟩
    exact String.le_antisymm (String.not_lt.1 hs) (String.not_lt.1 (h.2 heq))
  · exact .inl (by omega)

theorem ordered_insertMember {m : Int × String} {l : List (Int × String)} (hm : m.2 ∉ l.map (·.2))
    (h : l.Pairwise fun m n => before m n) : (insertMember m l).Pairwise fun m n => before m n := by
  induction l with
  | nil => exact List.pairwise_singleton ..
  | cons n l ih =>
    rw [List.map_cons, List.mem_cons, not_or] at hm
    obtain ⟨hhead, htail⟩ := List.pairwise_cons.1 h
    simp only [insertMember]
    split
    · next hmn =>
      refine List.pairwise_cons.2 ⟨fun k hk => ?_, h⟩
      rcases List.mem_cons.1 hk with rfl | hk
      · exact hmn
      · exact before_trans hmn (hhead k hk)
    · next hmn =>
      refine List.pairwise_cons.2 ⟨fun k hk => ?_, ih hm.2 htail⟩
      rcases List.mem_cons.1 ((perm_insertMember m l).mem_iff.1 hk) with rfl | hk
      · exact before_of_not_before hm.1 hmn
      · exact hhead k hk

end Store

theorem Ranked.filter {members : List (Int × String)} (h : Ranked members) (p : Int × String → Bool) :
    Ranked (members.filter p) :=
  ⟨h.distinct.sublist ((List.filter_sublist ..).map _), h.ordered.sublist (List.filter_sublist ..)⟩

theorem Ranked.insert {members : List (Int × String)} (h : Ranked members) {m : Int × String}
    (hm : m.2 ∉ members.map (·.2)) : Ranked (Store.insertMember m members) := by
  refine ⟨?_, Store.ordered_insertMember hm h.ordered⟩
  rw [((Store.perm_insertMember m members).map _).nodup_iff]
  exact List.nodup_cons.2 ⟨hm, h.distinct⟩

namespace Store

variable {s : Store} {key : String}

/-- A command leaves a set as a server keeps it. -/
theorem ranked_step (h : Ranked (s.sets key)) (c : Command) : Ranked ((s.step c).1.sets key) := by
  cases c with
  | push k v | remove k v => exact h
  | move source target taken put =>
    simp only [step]
    split
    · exact h
    · exact h
  | score k at_ m =>
    simp only [step, sets_setSet]
    split
    · next hk =>
      subst hk
      exact (h.filter _).insert (by simp)
    · exact h
  | unscore k m =>
    simp only [step, sets_setSet]
    split
    · next hk =>
      subst hk
      exact h.filter _
    · exact h
  | length _ | lowest _ _ _ | size _ | authenticate _ _ | select _ => exact h

theorem ranked_steps (h : Ranked (s.sets key)) (cs : List Command) : Ranked ((s.steps cs).1.sets key) := by
  induction cs generalizing s with
  | nil => exact h
  | cons c cs ih => exact ih (ranked_step h c)

/-- A request leaves a set as a server keeps it. -/
theorem ranked_perform (h : Ranked (s.sets key)) (r : Request) : Ranked ((s.perform r).1.sets key) := by
  cases r with
  | single c => exact ranked_step h c
  | block cs | batch cs => exact ranked_steps h cs

end Store
end Courier.Redis

namespace Courier.RedisQueue

open Calendar (Moment)
open Redis (Store Reply Ranked)

/-- So does a whole operation: in a store that came about by operations all sets are as a server keeps them. -/
theorem ranked_proceed {keys : RedisKeys} {clock : Nat → Moment} {c : QueueCall} {st : Stage c} {s : Store} {key : String}
    (h : Ranked (s.sets key)) (limit n : Nat) : Ranked ((proceed keys clock limit n st s).2.sets key) := by
  induction limit generalizing n st s with
  | zero => exact h
  | succ limit ih =>
    have hperform := Store.ranked_perform h (st.request keys (clock n))
    rw [proceed_succ]
    split
    · exact ih hperform _
    · exact hperform

/-! ## The tasks that are due -/

/-- The members that are put back at a time, and those that stay: the earliest ones that are due,
and all of them unless they are too many. -/
structure Ripe (now : Int) (members due later : List (Int × String)) : Prop where
  split : members = due ++ later
  ripe : ∀ m ∈ due, m.1 ≤ now
  ordered : due.Pairwise fun m n => m.1 ≤ n.1
  earliest : ∀ m ∈ due, ∀ n ∈ later, m.1 ≤ n.1
  few : due.length ≤ promotionLimit
  all : due.length < promotionLimit → ∀ n ∈ later, now < n.1

/-- In a list in order of times, nothing is due behind the members that are. -/
theorem lt_of_mem_dropWhile {now : Int} {members : List (Int × String)} (h : members.Pairwise fun m n => m.1 ≤ n.1)
    {n : Int × String} (hn : n ∈ members.dropWhile (·.1 ≤ now)) : now < n.1 := by
  induction members with
  | nil => cases hn
  | cons m members ih =>
    obtain ⟨hhead, htail⟩ := List.pairwise_cons.1 h
    by_cases hm : m.1 ≤ now
    · rw [List.dropWhile_cons_of_pos (by simpa using hm)] at hn
      exact ih htail hn
    · rw [List.dropWhile_cons_of_neg (by simpa using hm)] at hn
      rcases List.mem_cons.1 hn with rfl | hn
      · omega
      · have := hhead n hn
        omega

/-- The members with the lowest scores are the ones that are put back. -/
theorem ripe_lowest {members : List (Int × String)} (h : Ranked members) (now : Int) :
    ∃ due later, (members.takeWhile (·.1 ≤ now)).take promotionLimit = due ∧ Ripe now members due later := by
  have hordered : members.Pairwise fun m n => m.1 ≤ n.1 := h.ordered.imp fun hmn => by
    rcases Store.before_iff.1 hmn with h | ⟨h, -⟩ <;> omega
  obtain ⟨ripe, hripe⟩ : ∃ ripe, ripe = members.takeWhile (·.1 ≤ now) := ⟨_, rfl⟩
  obtain ⟨rest, hrest⟩ : ∃ rest, rest = members.dropWhile (·.1 ≤ now) := ⟨_, rfl⟩
  have hsplit : members = ripe.take promotionLimit ++ (ripe.drop promotionLimit ++ rest) := by
    rw [← List.append_assoc, List.take_append_drop, hripe, hrest, List.takeWhile_append_dropWhile]
  have hcut := hordered
  rw [hsplit, List.pairwise_append] at hcut
  rw [← hripe]
  refine ⟨_, ripe.drop promotionLimit ++ rest, rfl, hsplit, fun m hm => ?_, hcut.1, hcut.2.2, ?_, fun hfew n hn => ?_⟩
  · have hm := List.mem_of_mem_take hm
    rw [hripe] at hm
    simpa using List.mem_takeWhile_imp hm
  · rw [List.length_take]
    omega
  · rw [List.length_take] at hfew
    rw [List.drop_eq_nil_of_le (by omega), List.nil_append, hrest] at hn
    exact lt_of_mem_dropWhile hordered hn

/-! ## Putting back what is due -/

section

variable {keys : RedisKeys} {clock : Nat → Moment} {s : Store} {q : Contents}

theorem receive_claiming (raw : String) (rest : List String) :
    (Stage.claiming raw rest).receive (.int 1) = .stage (.promoting raw rest) :=
  receive_of_checked rfl rfl

theorem receive_promoting (n : Int) (raw : String) (rest : List String) :
    (Stage.promoting raw rest).receive (.int n) = .stage (Stage.promote rest) :=
  receive_of_checked rfl rfl

theorem receive_nothing : Stage.taking.receive .nothing = .finished (.ok none) := receive_of_checked rfl rfl

theorem receive_task {raw : String} {t : Task} (h : Task.decode raw = .ok t) :
    Stage.taking.receive (.text raw) = .finished (.ok (some ⟨t, raw⟩)) := by
  rw [World.receive_text, Stage.taken, h]

theorem receive_spoilt {raw reason : String} (h : Task.decode raw = .error reason) :
    Stage.taking.receive (.text raw) = .stage (.burying raw reason) := by
  rw [World.receive_text, Stage.taken, h]

theorem receive_burying (raw reason : String) (m n : Int) :
    (Stage.burying raw reason).receive (.list [.int m, .int n]) = .stage .taking :=
  receive_of_checked rfl rfl

/-- A member is taken out of a set by its text, and nothing else is. -/
theorem filter_ne_head {m : Int × String} {members : List (Int × String)}
    (distinct : ((m :: members).map (·.2)).Nodup) : (m :: members).filter (·.2 ≠ m.2) = members := by
  rw [List.map_cons, List.nodup_cons] at distinct
  rw [List.filter_cons_of_neg (by simp), List.filter_eq_self]
  intro k hk
  have hne : k.2 ≠ m.2 := fun h => distinct.1 (h ▸ List.mem_map_of_mem hk)
  simpa using hne

/-- All members in front of the set are taken out of it and put behind the waiting ones, with
two requests for each. -/
theorem proceed_promote (keys : RedisKeys) (clock : Nat → Moment) (s : Store) {due later : List (Int × String)}
    (hq : q.scheduled = due ++ later) (distinct : (q.scheduled.map (·.2)).Nodup) (limit n : Nat) :
    proceed keys clock (limit + 2 * due.length) n (Stage.promote (due.map (·.2))) (fill keys s q) =
      proceed keys clock limit (n + 2 * due.length) Stage.taking
        (fill keys s { q with pending := (due.map (·.2)).reverse ++ q.pending, scheduled := later }) := by
  induction due generalizing q limit n with
  | nil =>
    obtain rfl : q.scheduled = later := hq
    rfl
  | cons m due ih =>
    have hothers : q.scheduled.filter (·.2 ≠ m.2) = due ++ later := by
      rw [hq] at distinct ⊢
      exact filter_ne_head distinct
    have hclaim : (fill keys s q).perform ((Stage.claiming m.2 (due.map (·.2))).request keys (clock n)) =
        (fill keys s { q with scheduled := due ++ later }, .int 1) := by
      rw [perform_claiming _ distinct, hothers, if_pos (by simp [hq])]
    have hcount : limit + 2 * (m :: due).length = limit + 2 * due.length + 1 + 1 := by
      rw [List.length_cons]
      omega
    have hrest := ih (q := { q with pending := m.2 :: q.pending, scheduled := due ++ later }) rfl
      (by rw [← hothers]; exact distinct.sublist ((List.filter_sublist ..).map _)) limit (n + 1 + 1)
    rw [List.map_cons, Stage.promote, hcount, proceed_stage hclaim (receive_claiming _ _),
      proceed_stage (perform_promoting _) (receive_promoting _ _ _), hrest, List.reverse_cons, List.append_assoc]
    congr 1
    rw [List.length_cons]
    omega

/-! ## Going through the line -/

/-- A record of an entry that is no task: it can be read, and holds the text of the entry. -/
def Buries (clock : Nat → Moment) (raw record : String) : Prop :=
  ∃ n reason, Task.decode raw = .error reason ∧ record = unreadable (clock n) raw reason ∧
    ∃ v, Json.parse record = .ok v ∧ v.get? "raw" = some (.text raw)

theorem buries_unreadable (n : Nat) {raw reason : String} (h : Task.decode raw = .error reason) :
    Buries clock raw (unreadable (clock n) raw reason) := by
  have hdepth : 0 + 2 ≤ Json.Decoder.depthLimit := by decide
  refine ⟨n, reason, h, rfl, _, Json.Decoder.ofString_compact (Json.Decoder.object_reads ?_) hdepth, ?_⟩
  · intro m hm
    simp only [List.mem_cons, List.not_mem_nil, or_false] at hm
    rcases hm with rfl | rfl | rfl <;> exact Json.Decoder.value_text _
  · simp [Json.Value.get?, Json.Object.ofMembers, Json.Object.get?_insert]

/-- How a line, its oldest entry first, is gone through: the entries up to the first task are
given up, each with a record; the task is handed out under its own text; the rest stays. -/
structure Served (clock : Nat → Moment) (line spoilt records : List String) (found : Option Delivery)
    (rest : List String) : Prop where
  line : line = spoilt ++ found.toList.map (·.receipt) ++ rest
  spoilt : List.Forall₂ (Buries clock) spoilt records
  genuine : ∀ d ∈ found, Task.decode d.receipt = .ok d.task
  exhausted : found = none → rest = []

/-- What is left for a queue after its line was gone through. -/
def Contents.served (q : Contents) (records : List String) (found : Option Delivery) (rest : List String) : Contents :=
  { q with
    pending := rest.reverse
    processing := found.toList.map (·.receipt) ++ q.processing
    dead := records.reverse ++ q.dead }

/-- The line is gone through with two requests for each entry that is no task. -/
theorem proceed_taking (hk : keys.Distinct) (clock : Nat → Moment) (s : Store) {line : List String}
    (hq : q.pending = line.reverse) (limit n : Nat) (hlimit : 2 * line.length < limit) :
    ∃ spoilt records found rest, Served clock line spoilt records found rest ∧
      proceed keys clock limit n Stage.taking (fill keys s q) =
        (some (.ok found), fill keys s (q.served records found rest)) := by
  induction line generalizing q limit n with
  | nil =>
    obtain ⟨limit, rfl⟩ : ∃ k, limit = k + 1 := ⟨limit - 1, by omega⟩
    refine ⟨[], [], none, [], ⟨rfl, .nil, nofun, fun _ => rfl⟩, ?_⟩
    rw [proceed_finished (perform_taking_none _ hq) receive_nothing]
    obtain ⟨pending, processing, scheduled, dead⟩ := q
    obtain rfl : pending = [] := hq
    rfl
  | cons raw line ih =>
    rw [List.reverse_cons] at hq
    rw [List.length_cons] at hlimit
    obtain ⟨limit, rfl⟩ : ∃ k, limit = k + 1 + 1 := ⟨limit - 2, by omega⟩
    have htake := perform_taking_some (s := s) (clock n) hk hq
    cases hraw : Task.decode raw with
    | ok t =>
      refine ⟨[], [], some ⟨t, raw⟩, line, ⟨rfl, .nil, ?_, nofun⟩, ?_⟩
      · rintro _ ⟨⟩
        exact hraw
      · rw [proceed_finished htake (receive_task hraw)]
        rfl
    | error reason =>
      obtain ⟨record, hrecord⟩ : ∃ record, record = unreadable (clock (n + 1)) raw reason := ⟨_, rfl⟩
      have hbury := perform_bury (s := s) hk (q := { q with pending := line.reverse, processing := raw :: q.processing })
        raw record
      rw [List.erase_cons_head] at hbury
      obtain ⟨spoilt, records, found, rest, hserved, hrun⟩ := ih (q := { q with
        pending := line.reverse, dead := record :: q.dead }) rfl limit (n + 1 + 1) (by omega)
      refine ⟨raw :: spoilt, record :: records, found, rest, ?_, ?_⟩
      · refine ⟨?_, .cons (hrecord ▸ buries_unreadable (n + 1) hraw) hserved.spoilt, hserved.genuine, hserved.exhausted⟩
        rw [hserved.line]
        rfl
      · rw [hrecord] at hbury
        rw [proceed_stage htake (receive_spoilt hraw), proceed_stage hbury (receive_burying _ _ _ _), ← hrecord, hrun]
        simp only [Contents.served, List.reverse_cons, List.append_assoc, List.singleton_append]

/-! ## A whole operation -/

/-- What one client takes off a queue, whatever the names of its keys. -/
theorem conduct_dequeue (hk : keys.Distinct) (clock : Nat → Moment) {limit : Nat} (hset : Ranked (s.sets keys.scheduled))
    (hlimit : requestLimit keys s ≤ limit) :
    ∃ due later spoilt records found rest,
      Ripe (Redis.asDouble (clock 0).unixMillis) (s.sets keys.scheduled) due later ∧
      Served clock ((s.lists keys.pending).reverse ++ due.map (·.2)) spoilt records found rest ∧
      conduct keys clock .dequeue limit s =
        (some (.ok found), fill keys s ({ contents keys s with scheduled := later }.served records found rest)) := by
  obtain ⟨due, later, hlowest, hripe⟩ := ripe_lowest hset (Redis.asDouble (clock 0).unixMillis)
  have hlist : s.perform (Stage.listing.request keys (clock 0)) = (s, .list ((due.map (·.2)).map .text)) := by
    rw [← hlowest, ← fill_contents keys s, perform_listing, sets_scheduled]
  simp only [requestLimit, hripe.split, List.length_append] at hlimit
  -- one request for the list, two for each task that is due, and two for each entry of the line
  obtain ⟨k, rfl⟩ : ∃ k, limit = k + 2 * due.length + 1 := ⟨limit - 2 * due.length - 1, by omega⟩
  have hline : (due.map (·.2)).reverse ++ s.lists keys.pending =
      ((s.lists keys.pending).reverse ++ due.map (·.2)).reverse := by
    rw [List.reverse_append, List.reverse_reverse]
  obtain ⟨spoilt, records, found, rest, hserved, hrun⟩ := proceed_taking hk clock s hline
    (q := { contents keys s with pending := (due.map (·.2)).reverse ++ s.lists keys.pending, scheduled := later })
    k (0 + 1 + 2 * due.length) (by
      simp only [List.length_append, List.length_reverse, List.length_map]
      omega)
  refine ⟨due, later, spoilt, records, found, rest, hripe, hserved, ?_⟩
  have hpromote := proceed_promote keys clock s (q := contents keys s) hripe.split hset.distinct k (0 + 1)
  rw [fill_contents] at hpromote
  rw [conduct, Stage.start, proceed_stage hlist (World.receive_listing _), hpromote]
  exact hrun

/-- A task is handed out only for a text that was taken off the line. -/
theorem taking_of_receive {st : Stage .dequeue} {r : Reply} {d : Delivery}
    (h : st.receive r = .finished (.ok (some d))) : st = .taking := by
  obtain ⟨r', hr⟩ := Stage.checked_of_receive h nofun
  cases st with
  | taking => rfl
  | listing | burying _ _ =>
    obtain ⟨_, -, hs⟩ := ok_of_map hr
    cases hs
  | claiming raw rest =>
    obtain ⟨n, -, hs⟩ := ok_of_map hr
    split at hs <;> cases hs
  | promoting raw rest => cases hr

/-- A task that is handed out is the one that its text is read as, and the text is in flight. -/
theorem proceed_dequeue_some (hk : keys.Distinct) {st : Stage .dequeue} {s' : Store} {d : Delivery} {limit n : Nat}
    (h : proceed keys clock limit n st s = (some (.ok (some d)), s')) :
    Task.decode d.receipt = .ok d.task ∧ d.receipt ∈ s'.lists keys.processing := by
  induction limit generalizing n st s with
  | zero => cases h
  | succ limit ih =>
    rw [proceed_succ] at h
    cases hnext : st.receive (s.perform (st.request keys (clock n))).2 with
    | stage st' =>
      rw [hnext] at h
      exact ih h
    | finished a =>
      rw [hnext] at h
      obtain ⟨ha, rfl⟩ := Prod.mk.inj h
      obtain rfl := Option.some.inj ha
      refine ⟨Stage.receive_delivery hnext, ?_⟩
      obtain rfl := taking_of_receive hnext
      rw [← fill_contents keys s] at hnext ⊢
      rcases List.eq_nil_or_concat' (s.lists keys.pending) with hnil | ⟨rest, raw, hrest⟩
      · rw [perform_taking_none _ hnil, receive_nothing] at hnext
        cases hnext
      · rw [perform_taking_some _ hk hrest] at hnext ⊢
        cases hraw : Task.decode raw with
        | ok t =>
          rw [receive_task hraw] at hnext
          cases hnext
          rw [lists_processing hk]
          exact List.mem_cons_self ..
        | error reason =>
          rw [receive_spoilt hraw] at hnext
          cases hnext

/-- **What one client takes off a queue.** The operation ends with an answer, whatever the lists hold.
It puts the earliest tasks that are due by its clock, which the server takes as it is, behind the waiting ones, goes through the line from its
oldest entry on, gives up each entry that is no task, with a record that holds its text, and hands
out the first task under its own text, which is put in flight. It answers that there is none only if
no task was waiting and none was due. Nothing else in the store changes. -/
theorem dequeue_serves (start : String) (clock : Nat → Moment) {s : Store} {limit : Nat}
    (hset : Ranked (s.sets (RedisKeys.startingWith start).scheduled))
    (hlimit : requestLimit (.startingWith start) s ≤ limit) :
    let keys := RedisKeys.startingWith start
    ((clock 0).Sound → Redis.asDouble (clock 0).unixMillis = (clock 0).unixMillis) ∧
    ∃ due later spoilt records found rest,
      Ripe (Redis.asDouble (clock 0).unixMillis) (s.sets keys.scheduled) due later ∧
      Served clock ((s.lists keys.pending).reverse ++ due.map (·.2)) spoilt records found rest ∧
      conduct keys clock .dequeue limit s = (some (.ok found), fill keys s
        { pending := rest.reverse
          processing := found.toList.map (·.receipt) ++ s.lists keys.processing
          scheduled := later
          dead := records.reverse ++ s.lists keys.dead }) :=
  ⟨Redis.asDouble_unixMillis, conduct_dequeue (RedisKeys.distinct_startingWith start) clock hset hlimit⟩

end

/-- A queue with an entry that is no task before a task, the same text in flight, and a set with
an entry that is due. -/
def sampleStore : Store := fill (.startingWith "push_relay:tasks") {}
  ⟨[World.sampleTask.encode, "spoilt"], ["spoilt"], [(0, "due"), (5, "later")], []⟩

/-- The operation on that queue, whose line is then the entry that is no task, the task, and the one
that is due. -/
theorem dequeue_serves_spoilt :
    let keys := RedisKeys.startingWith "push_relay:tasks"
    Ranked (sampleStore.sets keys.scheduled) ∧ requestLimit keys sampleStore ≤ 20 ∧
    ∃ due later spoilt records found rest, Ripe 0 (sampleStore.sets keys.scheduled) due later ∧
      Served (fun _ => .epoch) (["spoilt", World.sampleTask.encode] ++ due.map (·.2)) spoilt records found rest ∧
      conduct keys (fun _ => .epoch) .dequeue 20 sampleStore = (some (.ok found), fill keys sampleStore
        ⟨rest.reverse, found.toList.map (·.receipt) ++ ["spoilt"], later, records.reverse⟩) := by
  intro keys
  have hset : Ranked (sampleStore.sets keys.scheduled) := ⟨by decide, by decide⟩
  have hlimit : requestLimit keys sampleStore ≤ 20 := by decide
  obtain ⟨htime, due, later, spoilt, records, found, rest, hripe, hserved, hrun⟩ :=
    dequeue_serves "push_relay:tasks" (fun _ => .epoch) hset hlimit
  rw [htime World.sampleTask_sound.enqueuedAt] at hripe
  have hk := RedisKeys.distinct_startingWith "push_relay:tasks"
  have hprocessing : sampleStore.lists (RedisKeys.startingWith "push_relay:tasks").processing = ["spoilt"] :=
    lists_processing hk
  have hdead : sampleStore.lists (RedisKeys.startingWith "push_relay:tasks").dead = [] := lists_dead hk
  rw [hprocessing, hdead, List.append_nil] at hrun
  exact ⟨hset, hlimit, due, later, spoilt, records, found, rest, hripe, hserved, hrun⟩

end Courier.RedisQueue
