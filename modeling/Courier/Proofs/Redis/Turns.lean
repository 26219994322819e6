import Courier.Proofs.Redis.Loss
import Courier.Proofs.Redis.Stock
/-
What each request of a client does to the tasks of a queue. A client goes by what it
read of the set some time ago, and others may have taken those tasks since, and put
them aside again. That does no harm: the reply to taking a text out tells whether it
was there, and whoever took it out is the only one who puts it back.

`Kept` says that the clients keep apart, that the store holds nothing but tasks and
dead letters, that the tasks out of the store are in the hands of clients, and that
all of them together are those that were put on the queue. Every request keeps it,
and how often a task was tried plays no part in it.
-/

namespace Courier.RedisQueue.Custody

open Calendar (Moment)
open Redis (Store Reply)
open Consumption (bare)

/-! ## What clients hold -/

/-- Whether clients hold the texts of some tasks, each client of one at most. -/
structure Held (clients : Nat → Client) (hands : List (Nat × Task)) : Prop where
  distinct : (hands.map (·.1)).Nodup
  sound : ∀ a ∈ hands, a.2.Sound
  holds : ∀ i x, (clients i).holds? = some x ↔ ∃ t, (i, t) ∈ hands ∧ x = t.encode

section

variable {clients : Nat → Client} {hands : List (Nat × Task)} {i : Nat} {x : Client}

theorem Held.same (h : Held clients hands) (hx : x.holds? = (clients i).holds?) :
    Held (fun j => if j = i then x else clients j) hands := by
  refine ⟨h.distinct, h.sound, fun j y => ?_⟩
  by_cases hj : j = i
  · subst hj
    simp only [if_true, hx]
    exact h.holds j y
  · simp only [if_neg hj]
    exact h.holds j y

theorem Held.notMem (h : Held clients hands) (hnone : (clients i).holds? = none) (t : Task) : (i, t) ∉ hands := by
  intro hmem
  have := (h.holds i t.encode).2 ⟨t, hmem, rfl⟩
  rw [hnone] at this
  cases this

/-- A client takes a text. -/
theorem Held.take (h : Held clients hands) (hnone : (clients i).holds? = none) {t : Task} (ht : t.Sound)
    (hx : x.holds? = some t.encode) : Held (fun j => if j = i then x else clients j) ((i, t) :: hands) := by
  refine ⟨List.nodup_cons.2 ⟨fun hmem => ?_, h.distinct⟩, fun a ha => ?_, fun j y => ?_⟩
  · obtain ⟨⟨_, u⟩, hu, rfl⟩ := List.mem_map.1 hmem
    exact h.notMem hnone u hu
  · rcases List.mem_cons.1 ha with rfl | ha
    · exact ht
    · exact h.sound a ha
  · by_cases hj : j = i
    · subst hj
      simp only [if_true, hx, Option.some.injEq]
      constructor
      · intro he
        exact ⟨t, List.mem_cons_self, he.symm⟩
      · rintro ⟨u, hu, rfl⟩
        rcases List.mem_cons.1 hu with hu | hu
        · cases hu
          rfl
        · exact absurd hu (h.notMem hnone u)
    · simp only [if_neg hj, h.holds]
      simp [hj]

/-- A client puts its text back. -/
theorem Held.give (h : Held clients hands) {raw : String} (hsome : (clients i).holds? = some raw) (hx : x.holds? = none) :
    ∃ t hands', t.Sound ∧ raw = t.encode ∧ hands.Perm ((i, t) :: hands') ∧
      Held (fun j => if j = i then x else clients j) hands' := by
  obtain ⟨t, ht, rfl⟩ := (h.holds i raw).1 hsome
  have hperm := List.perm_cons_erase ht
  have hdistinct := h.distinct
  rw [(hperm.map (·.1)).nodup_iff, List.map_cons, List.nodup_cons] at hdistinct
  refine ⟨t, hands.erase (i, t), h.sound _ ht, rfl, hperm, hdistinct.2, fun a ha => h.sound a (List.mem_of_mem_erase ha),
    fun j y => ?_⟩
  by_cases hj : j = i
  · subst hj
    simp only [if_true, hx]
    refine ⟨fun he => (by cases he), fun ⟨u, hu, _⟩ => absurd (List.mem_map_of_mem (f := (·.1)) hu) hdistinct.1⟩
  · simp only [if_neg hj, h.holds]
    have hne (u : Task) : (j, u) ≠ (i, t) := fun he => hj (congrArg (·.1) he)
    simp only [List.mem_erase_of_ne (hne _)]

end

/-! ## What there is -/

/-- The tasks on a shelf. -/
def content (keys : RedisKeys) (w : Custody) (hands : List (Nat × Task)) : Shelf → List Task
  | .pending => (w.world.store.lists keys.pending).filterMap read?
  | .processing => (w.world.store.lists keys.processing).filterMap read?
  | .scheduled => (w.world.store.members keys.scheduled).filterMap read?
  | .dead => (w.world.store.lists keys.dead).filterMap readLetter?
  | .acknowledged => w.acknowledged
  | .hands => hands.map (·.2)

/-- How often a task is there, on all shelves together. -/
def census (keys : RedisKeys) (w : Custody) (hands : List (Nat × Task)) (b : Task) : Nat :=
  stock keys w.world.store b + copies b w.acknowledged + copies b (hands.map (·.2))

structure Kept (keys : RedisKeys) (w : Custody) (hands : List (Nat × Task)) : Prop where
  orderly : Orderly w
  stocked : Stocked keys w.world.store w.unsettled
  held : Held w.world.clients hands
  conserved : ∀ b, census keys w hands b = copies b w.world.enqueued
  distinct : (w.world.enqueued.map (·.id)).Nodup

section

variable {keys : RedisKeys} {w : Custody} {hands : List (Nat × Task)} {i : Nat} {c : QueueCall} {s : Stage c} {clock : Moment}

@[simp] theorem act_store : (w.act keys clock i s).world.store = (w.world.store.perform (s.request keys clock)).1 := by
  simp only [act, World.act, World.goOn_store]

theorem act_clients : (w.act keys clock i s).world.clients = fun j =>
    if j = i then (s.receive (w.world.store.perform (s.request keys clock)).2).client else w.world.clients j := by
  funext j
  simp only [act, World.act, World.goOn_clients]

theorem goOn_enqueued {w : World} (hc : ∀ t, c ≠ .enqueue t) (next : Stage.Next c) :
    (w.goOn i next).enqueued = w.enqueued := by
  cases next with
  | stage _ => rfl
  | finished a =>
    simp only [World.goOn, World.setClient, World.note]
    split
    · exact absurd rfl (hc _)
    · rfl
    · rfl

/-- A task is on the queue once it was added. -/
theorem act_enqueued : (w.act keys clock i s).world.enqueued = s.adding?.toList ++ w.world.enqueued := by
  cases s with
  | adding t => rfl
  | listing | claiming _ _ | promoting _ _ | taking | burying _ _ | releasing _ | rescheduling _ _ | abandoning _ _
  | recovering _ | counting => exact goOn_enqueued (by simp) _

/-- What one request changes, put together. -/
theorem Kept.acted (h : Kept keys w hands) (busy : w.world.clients i = .busy c s) {hands' : List (Nat × Task)}
    (hfree : (s.receive (w.world.store.perform (s.request keys clock)).2).client.Free)
    (hstocked : Stocked keys (w.world.store.perform (s.request keys clock)).1 (w.act keys clock i s).unsettled)
    (hheld : Held (w.act keys clock i s).world.clients hands')
    (hconserved : ∀ b, stock keys (w.world.store.perform (s.request keys clock)).1 b + copies b s.acknowledging?.toList +
      copies b (hands'.map (·.2)) = stock keys w.world.store b + copies b s.adding?.toList + copies b (hands.map (·.2))) :
    Kept keys (w.act keys clock i s) hands' := by
  have hadding : (w.world.clients i).adding? = s.adding? := by rw [busy]; rfl
  have hsettling : (w.world.clients i).settling? = s.settling? := by rw [busy]; rfl
  refine ⟨?_, ?_, hheld, fun b => ?_, ?_⟩
  · refine h.orderly.turn hfree act_clients (fun u hu => ?_) fun a ha => ?_
    · rw [act_enqueued] at hu
      rcases List.mem_append.1 hu with hu | hu
      · exact .inr (hadding.trans (by simpa using hu))
      · exact .inl hu
    · by_cases hs : s.settling? = some a.2
      · exact .inr (hsettling.trans hs)
      · exact .inl (List.mem_append_right _ ((List.mem_eraseP_of_neg (by simpa using hs)).2 ha))
  · rw [act_store]
    exact hstocked
  · have hbefore := h.conserved b
    have hafter := hconserved b
    have hacknowledged : (w.act keys clock i s).acknowledged = s.acknowledging?.toList ++ w.acknowledged := rfl
    rw [census] at hbefore
    rw [census, act_store, act_enqueued, hacknowledged, copies_append, copies_append]
    omega
  · rw [act_enqueued]
    cases hs : s.adding? with
    | none => exact h.distinct
    | some t =>
      refine List.nodup_cons.2 ⟨fun hmem => ?_, h.distinct⟩
      obtain ⟨u, hu, he⟩ := List.mem_map.1 hmem
      exact (h.orderly.adding i t (hadding.trans hs)).2 u hu he

theorem act_unsettled (hs : s.settling? = none) : (w.act keys clock i s).unsettled =
    ((s.receive (w.world.store.perform (s.request keys clock)).2).delivery?.map fun d => (i, d)).toList ++ w.unsettled := by
  have herase : (w.unsettled.eraseP fun a => s.settling? = some a.2) = w.unsettled :=
    List.eraseP_of_forall_not fun a _ => by simp [hs]
  simp only [act, herase]

/-! ## Requests -/

theorem holds?_promote (rest : List String) : (Client.busy .dequeue (Stage.promote rest)).holds? = none := by
  cases rest <;> rfl

theorem Kept.adding (hk : keys.Distinct) (h : Kept keys w hands) {t : Task}
    (busy : w.world.clients i = .busy _ (.adding t)) : Kept keys (w.act keys clock i (.adding t)) hands := by
  have ht : t.Sound := (h.orderly.adding i t (by rw [busy]; rfl)).1
  obtain ⟨hstocked, hstock⟩ := h.stocked.push hk ht
  refine h.acted busy Client.free_idle ?_ ?_ fun b => ?_
  · rw [act_unsettled rfl]
    exact hstocked
  · rw [act_clients]
    exact h.held.same (by rw [busy]; rfl)
  · have hadding : copies b (Stage.adding t).adding?.toList = if bare t = b then 1 else 0 := copies_one b t
    have hnone : copies b (Stage.adding t).acknowledging?.toList = 0 := rfl
    have hstore : stock keys (w.world.store.perform ((Stage.adding t).request keys clock)).1 b = _ := hstock b
    omega

theorem Kept.listing (h : Kept keys w hands) (busy : w.world.clients i = .busy _ .listing) :
    Kept keys (w.act keys clock i .listing) hands := by
  obtain ⟨due, hdue⟩ : ∃ due, Stage.listing.receive (w.world.store.perform (Stage.listing.request keys clock)).2 =
      .stage (Stage.promote due) := by
    have hreply : (w.world.store.perform (Stage.listing.request keys clock)).2 =
        .list (((((w.world.store.sets keys.scheduled).takeWhile (·.1 ≤ Redis.asDouble clock.unixMillis)).take promotionLimit).map
          (·.2)).map .text) := by
      simp [Stage.request, Store.perform, Store.step, Function.comp_def]
    exact ⟨_, hreply ▸ World.receive_listing _⟩
  refine h.acted busy ?_ ?_ ?_ fun b => rfl
  · rw [hdue]
    exact Client.free_promote due
  · rw [act_unsettled rfl, hdue]
    exact h.stocked
  · rw [act_clients, hdue]
    exact h.held.same ((holds?_promote due).trans (by rw [busy]; rfl))

/-- A client takes a text out of the set only if it is there still. -/
theorem Kept.claiming (h : Kept keys w hands) {raw : String} {rest : List String}
    (busy : w.world.clients i = .busy _ (.claiming raw rest)) :
    ∃ hands', Kept keys (w.act keys clock i (.claiming raw rest)) hands' := by
  have hreply : (w.world.store.perform ((Stage.claiming raw rest).request keys clock)).2 =
      .int (if raw ∈ w.world.store.members keys.scheduled then 1 else 0) := Store.reply_unscore raw h.stocked.members
  have hholds : (w.world.clients i).holds? = none := by
    rw [busy]
    rfl
  by_cases hraw : raw ∈ w.world.store.members keys.scheduled
  · obtain ⟨t, ht, rfl⟩ := h.stocked.tasks raw (.inr (.inr hraw))
    have hnext : (Stage.claiming t.encode rest).receive
        (w.world.store.perform ((Stage.claiming t.encode rest).request keys clock)).2 =
        .stage (.promoting t.encode rest) := by
      rw [hreply, if_pos hraw]
      rfl
    refine ⟨(i, t) :: hands, h.acted busy ?_ ?_ ?_ fun b => ?_⟩
    · rw [hnext]
      exact ⟨trivial, rfl, rfl⟩
    · rw [act_unsettled rfl, hnext]
      exact h.stocked.unscore t.encode
    · rw [act_clients, hnext]
      exact h.held.take hholds ht rfl
    · have hstore : stock keys w.world.store b =
          stock keys (w.world.store.perform ((Stage.claiming t.encode rest).request keys clock)).1 b + _ :=
        stock_unscore h.stocked.members ht hraw
      have hnone : copies b (Stage.claiming t.encode rest).acknowledging?.toList = 0 := rfl
      have hnone' : copies b (Stage.claiming t.encode rest).adding?.toList = 0 := rfl
      rw [List.map_cons, copies_cons]
      dsimp only
      omega
  · have hnext : (Stage.claiming raw rest).receive
        (w.world.store.perform ((Stage.claiming raw rest).request keys clock)).2 = .stage (Stage.promote rest) := by
      rw [hreply, if_neg hraw]
      rfl
    refine ⟨hands, h.acted busy ?_ ?_ ?_ fun b => ?_⟩
    · rw [hnext]
      exact Client.free_promote rest
    · rw [act_unsettled rfl, hnext]
      exact h.stocked.unscore raw
    · rw [act_clients, hnext]
      exact h.held.same ((holds?_promote rest).trans hholds.symm)
    · have hstore : stock keys (w.world.store.perform ((Stage.claiming raw rest).request keys clock)).1 b =
          stock keys w.world.store b := stock_unscore_notMem hraw
      rw [hstore]
      rfl

theorem Kept.promoting (hk : keys.Distinct) (h : Kept keys w hands) {raw : String} {rest : List String}
    (busy : w.world.clients i = .busy _ (.promoting raw rest)) :
    ∃ hands', Kept keys (w.act keys clock i (.promoting raw rest)) hands' := by
  have hholds : (w.world.clients i).holds? = some raw := by
    rw [busy]
    rfl
  obtain ⟨t, hands', ht, rfl, hperm, hheld⟩ := h.held.give hholds (holds?_promote rest)
  obtain ⟨hstocked, hstock⟩ := h.stocked.push hk ht
  refine ⟨hands', h.acted busy (Client.free_promote rest) ?_ ?_ fun b => ?_⟩
  · rw [act_unsettled rfl]
    exact hstocked
  · rw [act_clients]
    exact hheld
  · have hstore : stock keys (w.world.store.perform ((Stage.promoting t.encode rest).request keys clock)).1 b = _ :=
      hstock b
    have hnone : copies b (Stage.promoting t.encode rest).acknowledging?.toList = 0 := rfl
    have hnone' : copies b (Stage.promoting t.encode rest).adding?.toList = 0 := rfl
    have hhands := copies_perm (b := b) (hperm.map (·.2))
    rw [List.map_cons, copies_cons] at hhands
    dsimp only at hhands
    omega

/-- The task that has waited longest is handed out, if there is one. -/
theorem Kept.taking (hk : keys.Distinct) (h : Kept keys w hands) (busy : w.world.clients i = .busy _ .taking) :
    Kept keys (w.act keys clock i .taking) hands := by
  have hholds : (w.world.clients i).holds? = none := by
    rw [busy]
    rfl
  cases htaken : Store.taken? .right (w.world.store.lists keys.pending) with
  | none =>
    have hperform : w.world.store.perform (Stage.taking.request keys clock) = (w.world.store, .nothing) := by
      simp only [Stage.request, Store.perform, Store.step, htaken]
    have hnext : Stage.taking.receive (w.world.store.perform (Stage.taking.request keys clock)).2 =
        .finished (.ok (none : Option Delivery)) := by
      rw [hperform]
      rfl
    refine h.acted busy ?_ ?_ ?_ fun b => ?_
    · rw [hnext]
      exact Client.free_idle
    · rw [act_unsettled rfl, hnext, hperform]
      exact h.stocked
    · rw [act_clients, hnext]
      exact h.held.same hholds.symm
    · rw [hperform]
      rfl
  | some p =>
    obtain ⟨raw, rest⟩ := p
    obtain ⟨t, ht, rfl⟩ := h.stocked.tasks raw (.inl ((perm_of_taken? htaken).symm.subset List.mem_cons_self))
    obtain ⟨hstocked, hstock⟩ := h.stocked.move hk htaken ht i
    have hreply : (w.world.store.perform (Stage.taking.request keys clock)).2 = .text t.encode := by
      simp only [Stage.request, Store.perform, Store.step, htaken]
    have hnext := World.receive_taking ht
    rw [← hreply] at hnext
    refine h.acted busy ?_ ?_ ?_ fun b => ?_
    · rw [hnext]
      exact Client.free_idle
    · rw [act_unsettled rfl, hnext]
      exact hstocked
    · rw [act_clients, hnext]
      exact h.held.same hholds.symm
    · have hstore : stock keys (w.world.store.perform (Stage.taking.request keys clock)).1 b = stock keys w.world.store b :=
        hstock b
      rw [hstore]
      rfl

/-! ## Settlements -/

/-- A task of which a delivery is unsettled is not put aside, under no count of attempts. -/
theorem Kept.next_notMem (h : Kept keys w hands) {k : Nat} {d : Delivery} (hd : (k, d) ∈ w.unsettled) :
    d.task.next.encode ∉ w.world.store.members keys.scheduled := by
  intro hmem
  have ht : d.task.Sound := (h.stocked.receipts _ hd).1
  have hprocessing := copies_pos ht (h.stocked.mem_processing hd)
  have hscheduled := copies_pos ht.next hmem
  have hbare : bare d.task.next = bare d.task := rfl
  rw [hbare] at hscheduled
  have hone := copies_le_one h.distinct (bare d.task)
  rw [← h.conserved, census, stock] at hone
  omega

theorem act_settling {d : Delivery} (hs : s.settling? = some d)
    (hd : (s.receive (w.world.store.perform (s.request keys clock)).2).delivery? = none) :
    (w.act keys clock i s).unsettled = w.unsettled.eraseP fun a => some d = some a.2 := by
  simp only [act, hs, hd]
  rfl

theorem Kept.releasing (hk : keys.Distinct) (h : Kept keys w hands) {d : Delivery}
    (busy : w.world.clients i = .busy _ (.releasing d)) : Kept keys (w.act keys clock i (.releasing d)) hands := by
  obtain ⟨k, hd⟩ := h.orderly.settling i d (by rw [busy]; rfl)
  obtain ⟨hstocked, hstock⟩ := h.stocked.remove hk hd
  refine h.acted busy Client.free_idle ?_ ?_ fun b => ?_
  · rw [act_settling rfl rfl]
    exact hstocked
  · rw [act_clients]
    exact h.held.same (by rw [busy]; rfl)
  · have hstore : stock keys w.world.store b =
        stock keys (w.world.store.perform ((Stage.releasing d).request keys clock)).1 b + _ := hstock b
    have hacknowledged : copies b (Stage.releasing d).acknowledging?.toList = if bare d.task = b then 1 else 0 :=
      copies_one b d.task
    have hnone : copies b (Stage.releasing d).adding?.toList = 0 := rfl
    omega

theorem Kept.rescheduling (hk : keys.Distinct) (h : Kept keys w hands) {d : Delivery} {wait : Nat}
    (busy : w.world.clients i = .busy _ (.rescheduling d wait)) :
    Kept keys (w.act keys clock i (.rescheduling d wait)) hands := by
  obtain ⟨k, hd⟩ := h.orderly.settling i d (by rw [busy]; rfl)
  have ht : d.task.next.Sound := (h.stocked.receipts _ hd).1.next
  obtain ⟨hstocked, hremove⟩ := h.stocked.remove hk hd
  have hscore (b : Task) := stock_score (b := b) ht (dueTime clock wait)
    (s := (w.world.store.step (.remove keys.processing d.receipt)).1) (h.next_notMem hd)
  refine h.acted busy Client.free_idle ?_ ?_ fun b => ?_
  · rw [act_settling rfl rfl]
    exact hstocked.score ht _
  · rw [act_clients]
    exact h.held.same (by rw [busy]; rfl)
  · have hstore : stock keys (w.world.store.perform ((Stage.rescheduling d wait).request keys clock)).1 b = _ := hscore b
    have hbefore := hremove b
    have hbare : bare d.task.next = bare d.task := rfl
    rw [hbare] at hstore
    have hnone : copies b (Stage.rescheduling d wait).acknowledging?.toList = 0 := rfl
    have hnone' : copies b (Stage.rescheduling d wait).adding?.toList = 0 := rfl
    omega

theorem Kept.abandoning (hk : keys.Distinct) (h : Kept keys w hands) {d : Delivery} {reason : String}
    (hclock : clock.Sound) (busy : w.world.clients i = .busy _ (.abandoning d reason)) :
    Kept keys (w.act keys clock i (.abandoning d reason)) hands := by
  obtain ⟨k, hd⟩ := h.orderly.settling i d (by rw [busy]; rfl)
  obtain ⟨hremoved, hremove⟩ := h.stocked.remove hk hd
  obtain ⟨hstocked, hbury⟩ := hremoved.bury (l := ⟨d.task, reason, clock⟩) hk ⟨(h.stocked.receipts _ hd).1, hclock⟩
  refine h.acted busy Client.free_idle ?_ ?_ fun b => ?_
  · rw [act_settling rfl rfl]
    exact hstocked
  · rw [act_clients]
    exact h.held.same (by rw [busy]; rfl)
  · have hstore : stock keys (w.world.store.perform ((Stage.abandoning d reason).request keys clock)).1 b = _ := hbury b
    have hbefore := hremove b
    dsimp only at hstore
    have hnone : copies b (Stage.abandoning d reason).acknowledging?.toList = 0 := rfl
    have hnone' : copies b (Stage.abandoning d reason).adding?.toList = 0 := rfl
    omega

/-! ## All that clients do -/

theorem Kept.act (hk : keys.Distinct) (h : Kept keys w hands) (busy : w.world.clients i = .busy c s)
    (hclock : clock.Sound) : ∃ hands', Kept keys (w.act keys clock i s) hands' := by
  have husual := h.orderly.usual i
  rw [busy] at husual
  cases s with
  | adding t => exact ⟨hands, h.adding hk busy⟩
  | listing => exact ⟨hands, h.listing busy⟩
  | claiming raw rest => exact h.claiming busy
  | promoting raw rest => exact h.promoting hk busy
  | taking => exact ⟨hands, h.taking hk busy⟩
  | releasing d => exact ⟨hands, h.releasing hk busy⟩
  | rescheduling d wait => exact ⟨hands, h.rescheduling hk busy⟩
  | abandoning d reason => exact ⟨hands, h.abandoning hk hclock busy⟩
  | burying _ _ | recovering _ | counting => exact husual.elim

theorem Kept.step {w' : Custody} (hk : keys.Distinct) (h : Kept keys w hands) (hstep : Step keys w w') :
    ∃ hands', Kept keys w' hands' := by
  cases hstep with
  | @start i c idle may =>
    have hholds : (Client.busy c (Stage.start c)).holds? = (w.world.clients i).holds? := by
      rw [idle]
      cases c <;> rfl
    exact ⟨hands, h.orderly.start may, h.stocked, h.held.same hholds, h.conserved, h.distinct⟩
  | act busy hclock => exact h.act hk busy hclock

theorem kept_empty {store : Store} (empty : Empty keys store) : Kept keys { world := { store } } [] where
  orderly := ⟨fun _ => trivial, fun _ _ ht => (by cases ht), fun _ _ _ _ ht => (by cases ht), fun _ _ hd => (by cases hd),
    fun _ _ _ _ hd => by cases hd⟩
  stocked := by
    have hmembers : store.members keys.scheduled = [] := by rw [Store.members, empty.scheduled]; rfl
    refine ⟨fun x hx => ?_, fun x hx => ?_, ?_, ?_, by simp⟩
    · simp only [Holds, empty.pending, empty.processing, hmembers] at hx
      rcases hx with hx | hx | hx <;> cases hx
    · rw [empty.dead] at hx
      cases hx
    · rw [hmembers]
      exact List.nodup_nil
    · rw [empty.processing]
      exact .nil
  held := by
    refine ⟨List.nodup_nil, by simp, fun i x => ⟨fun hx => (by cases hx), ?_⟩⟩
    rintro ⟨t, ht, -⟩
    cases ht
  conserved b := by
    simp only [census, stock, Store.members, empty.pending, empty.processing, empty.scheduled, empty.dead]
    rfl
  distinct := List.nodup_nil

/-- All is kept in everything that is reached. -/
theorem Reachable.kept (hk : keys.Distinct) (h : Reachable keys w) : ∃ hands, Kept keys w hands := by
  induction h with
  | start empty => exact ⟨[], kept_empty empty⟩
  | step _ hstep ih =>
    obtain ⟨hands, hkept⟩ := ih
    exact hkept.step hk hstep

end

end Courier.RedisQueue.Custody
