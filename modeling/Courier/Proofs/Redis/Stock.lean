import Mathlib.Data.List.Perm.Basic
import Courier.Proofs.Queue.Conservation
import Courier.Proofs.Redis.Custody
/-
What a store holds for a queue when all its entries are tasks and dead letters, and
how often each task is there. A command takes one task away, or puts one in, or
moves one from a list to another; and it does so only because the texts of all other
tasks are other texts.
-/

namespace Courier.RedisQueue.Custody

open Redis (Store)
open Consumption (bare)

/-! ## Tasks that are read from entries -/

theorem read?_encode {t : Task} (h : t.Sound) : read? t.encode = some t := by
  rw [read?, Task.decode_encode h]
  rfl

theorem readLetter?_encode {l : DeadLetter} (h : l.Sound) : readLetter? l.encode = some l.task := by
  rw [readLetter?, DeadLetter.decode_encode h]
  rfl

/-- How many of some tasks are a given one, tried however often. -/
def copies (b : Task) (l : List Task) : Nat := (l.map bare).count b

theorem copies_cons (b t : Task) (l : List Task) : copies b (t :: l) = copies b l + if bare t = b then 1 else 0 := by
  simp [copies, List.count_cons]

@[simp] theorem copies_one (b t : Task) : copies b [t] = if bare t = b then 1 else 0 := by
  rw [copies_cons]
  exact Nat.zero_add _

theorem copies_append (b : Task) (l l' : List Task) : copies b (l ++ l') = copies b l + copies b l' := by
  simp [copies, List.count_append]

theorem copies_perm {b : Task} {l l' : List Task} (h : l.Perm l') : copies b l = copies b l' := (h.map bare).count_eq b

/-- An entry that is a task counts. -/
theorem copies_pos {t : Task} (ht : t.Sound) {l : List String} (h : t.encode ∈ l) :
    0 < copies (bare t) (l.filterMap read?) :=
  List.count_pos_iff.2 (List.mem_map.2 ⟨t, List.mem_filterMap.2 ⟨_, h, read?_encode ht⟩, rfl⟩)

theorem copies_le_one {l : List Task} (h : (l.map (·.id)).Nodup) (b : Task) : copies b l ≤ 1 := by
  have hids : ((l.map bare).map (·.id)).Nodup := by
    simpa only [List.map_map, Function.comp_def, bare, Task.withAttempts] using h
  exact List.nodup_iff_count_le_one.1 hids.of_map b

/-! ## What the store holds -/

/-- Whether every entry of a store is a task or a dead letter, with those in flight
just the ones of which deliveries are unsettled. -/
structure Stocked (keys : RedisKeys) (s : Store) (unsettled : List (Nat × Delivery)) : Prop where
  tasks : ∀ x, Holds keys s x → ∃ t : Task, t.Sound ∧ x = t.encode
  letters : ∀ x ∈ s.lists keys.dead, ∃ l : DeadLetter, l.Sound ∧ x = l.encode
  members : (s.members keys.scheduled).Nodup
  inflight : (s.lists keys.processing).Perm (unsettled.map (·.2.receipt))
  receipts : ∀ a ∈ unsettled, a.2.task.Sound ∧ a.2.receipt = a.2.task.encode

/-- How often a task is in the store. -/
def stock (keys : RedisKeys) (s : Store) (b : Task) : Nat :=
  copies b ((s.lists keys.pending).filterMap read?) + copies b ((s.lists keys.processing).filterMap read?) +
    copies b ((s.members keys.scheduled).filterMap read?) + copies b ((s.lists keys.dead).filterMap readLetter?)

section

variable {keys : RedisKeys} {s : Store} {unsettled : List (Nat × Delivery)} {t : Task} {b : Task}

theorem copies_entries (ht : t.Sound) {l l' : List String} (h : l.Perm (t.encode :: l')) :
    copies b (l.filterMap read?) = copies b (l'.filterMap read?) + if bare t = b then 1 else 0 := by
  rw [copies_perm (h.filterMap read?), List.filterMap_cons_some (read?_encode ht), copies_cons]

theorem Stocked.mem_processing (h : Stocked keys s unsettled) {k : Nat} {d : Delivery} (hd : (k, d) ∈ unsettled) :
    d.task.encode ∈ s.lists keys.processing := by
  have hreceipt : d.receipt = d.task.encode := (h.receipts (k, d) hd).2
  rw [← hreceipt]
  exact h.inflight.symm.subset (List.mem_map_of_mem (f := (·.2.receipt)) hd)

theorem Stocked.read? (h : Stocked keys s unsettled) {x : String} (hx : Holds keys s x) : Custody.read? x ≠ none := by
  obtain ⟨t, ht, rfl⟩ := h.tasks x hx
  rw [read?_encode ht]
  simp

/-- It is enough to look at the entries that are new. -/
theorem Stocked.tasks_of (h : Stocked keys s unsettled) {s' : Store} (new : List String)
    (hnew : ∀ x ∈ new, ∃ t : Task, t.Sound ∧ x = t.encode)
    (hpending : s'.lists keys.pending ⊆ new ++ s.lists keys.pending)
    (hprocessing : s'.lists keys.processing ⊆ new ++ s.lists keys.processing)
    (hscheduled : s'.members keys.scheduled ⊆ new ++ s.members keys.scheduled) (x : String) (hx : Holds keys s' x) :
    ∃ t : Task, t.Sound ∧ x = t.encode := by
  have hold : x ∈ new ∨ Holds keys s x := by
    rcases hx with hx | hx | hx
    · exact (List.mem_append.1 (hpending hx)).imp_right .inl
    · exact (List.mem_append.1 (hprocessing hx)).imp_right fun hx => .inr (.inl hx)
    · exact (List.mem_append.1 (hscheduled hx)).imp_right fun hx => .inr (.inr hx)
  rcases hold with hx | hx
  · exact hnew x hx
  · exact h.tasks x hx

theorem tasks_one (ht : t.Sound) (x : String) (hx : x ∈ [t.encode]) : ∃ t : Task, t.Sound ∧ x = t.encode :=
  ⟨t, ht, List.mem_singleton.1 hx⟩

/-! ## Commands -/

/-- A task is put in front of the waiting ones. -/
theorem Stocked.push (hk : keys.Distinct) (h : Stocked keys s unsettled) (ht : t.Sound) :
    Stocked keys (s.step (.push keys.pending t.encode)).1 unsettled ∧
      ∀ b, stock keys (s.step (.push keys.pending t.encode)).1 b = stock keys s b + if bare t = b then 1 else 0 := by
  have hpending : (s.step (.push keys.pending t.encode)).1.lists keys.pending = t.encode :: s.lists keys.pending :=
    if_pos rfl
  have hprocessing : (s.step (.push keys.pending t.encode)).1.lists keys.processing = s.lists keys.processing :=
    if_neg (Ne.symm hk.apart)
  have hdead : (s.step (.push keys.pending t.encode)).1.lists keys.dead = s.lists keys.dead := if_neg hk.dead_pending
  refine ⟨⟨h.tasks_of [t.encode] (tasks_one ht) ?_ ?_ (List.subset_cons_self _ _), ?_, h.members, ?_, h.receipts⟩, fun b => ?_⟩
  · rw [hpending]
    exact List.Subset.refl _
  · rw [hprocessing]
    exact List.subset_cons_self _ _
  · rw [hdead]
    exact h.letters
  · rw [hprocessing]
    exact h.inflight
  · have hmembers : (s.step (.push keys.pending t.encode)).1.members keys.scheduled = s.members keys.scheduled := rfl
    simp only [stock, hpending, hprocessing, hdead, hmembers, copies_entries ht (.refl _)]
    omega

/-- What is taken out of the set is gone from there, and nothing else is. -/
theorem Stocked.unscore (h : Stocked keys s unsettled) (raw : String) :
    Stocked keys (s.step (.unscore keys.scheduled raw)).1 unsettled where
  tasks := by
    refine h.tasks_of [] (by simp) (List.Subset.refl _) (List.Subset.refl _) ?_
    rw [Store.members_unscore]
    exact List.filter_subset_self _
  letters := h.letters
  members := Store.nodup_step h.members _
  inflight := h.inflight
  receipts := h.receipts

theorem stock_unscore_notMem {raw : String} (hraw : raw ∉ s.members keys.scheduled) :
    stock keys (s.step (.unscore keys.scheduled raw)).1 b = stock keys s b := by
  have hmembers : (s.step (.unscore keys.scheduled raw)).1.members keys.scheduled = s.members keys.scheduled := by
    rw [Store.members_unscore]
    exact List.filter_eq_self.2 fun x hx => by simpa using ne_of_mem_of_not_mem hx hraw
  have hlists : (s.step (.unscore keys.scheduled raw)).1.lists = s.lists := rfl
  simp only [stock, hmembers, hlists]

theorem stock_unscore (hmembers : (s.members keys.scheduled).Nodup) (ht : t.Sound)
    (hraw : t.encode ∈ s.members keys.scheduled) :
    stock keys s b = stock keys (s.step (.unscore keys.scheduled t.encode)).1 b + if bare t = b then 1 else 0 := by
  have hperm : (s.members keys.scheduled).Perm
      (t.encode :: (s.step (.unscore keys.scheduled t.encode)).1.members keys.scheduled) := by
    rw [Store.members_unscore]
    have herase := hmembers.erase_eq_filter t.encode
    have hfilter : (s.members keys.scheduled).filter (· ≠ t.encode) = (s.members keys.scheduled).erase t.encode := by
      rw [herase]
      exact List.filter_congr fun x _ => by by_cases hx : x = t.encode <;> simp [hx]
    rw [hfilter]
    exact List.perm_cons_erase hraw
  have hlists : (s.step (.unscore keys.scheduled t.encode)).1.lists = s.lists := rfl
  simp only [stock, hlists, copies_entries ht hperm]
  omega

/-- A task is put aside. -/
theorem Stocked.score (h : Stocked keys s unsettled) (ht : t.Sound) (at_ : Int) :
    Stocked keys (s.step (.score keys.scheduled at_ t.encode)).1 unsettled where
  tasks := by
    refine h.tasks_of [t.encode] (tasks_one ht) (List.subset_cons_self _ _) (List.subset_cons_self _ _) ?_
    refine List.Subset.trans (Store.perm_members_score _ _ _ _).subset ?_
    exact List.cons_subset_cons _ (List.filter_subset_self _)
  letters := h.letters
  members := Store.nodup_step h.members _
  inflight := h.inflight
  receipts := h.receipts

theorem stock_score (ht : t.Sound) (at_ : Int) (hnew : t.encode ∉ s.members keys.scheduled) :
    stock keys (s.step (.score keys.scheduled at_ t.encode)).1 b = stock keys s b + if bare t = b then 1 else 0 := by
  have hperm : ((s.step (.score keys.scheduled at_ t.encode)).1.members keys.scheduled).Perm
      (t.encode :: s.members keys.scheduled) := by
    have hfilter : (s.members keys.scheduled).filter (· ≠ t.encode) = s.members keys.scheduled :=
      List.filter_eq_self.2 fun x hx => by simpa using ne_of_mem_of_not_mem hx hnew
    have hscore := Store.perm_members_score s keys.scheduled at_ t.encode
    rwa [hfilter] at hscore
  have hlists : (s.step (.score keys.scheduled at_ t.encode)).1.lists = s.lists := rfl
  simp only [stock, hlists, copies_entries ht hperm]
  omega

theorem perm_of_taken? {side : Redis.Side} {l rest : List String} {v : String}
    (h : Store.taken? side l = some (v, rest)) : l.Perm (v :: rest) := by
  cases side with
  | left =>
    cases l with
    | nil => cases h
    | cons y l =>
      cases h
      exact .refl _
  | right =>
    rcases List.eq_nil_or_concat l with rfl | ⟨l, y, rfl⟩
    · cases h
    · simp only [Store.taken?, List.concat_eq_append, List.getLast?_concat, Option.map_some, List.dropLast_concat,
        Option.some.injEq, Prod.mk.injEq] at h
      obtain ⟨rfl, rfl⟩ := h
      rw [List.concat_eq_append]
      exact List.perm_append_singleton _ _

/-- A waiting task is handed out. -/
theorem Stocked.move (hk : keys.Distinct) (h : Stocked keys s unsettled) {rest : List String}
    (htaken : Store.taken? .right (s.lists keys.pending) = some (t.encode, rest)) (ht : t.Sound) (i : Nat) :
    Stocked keys (s.step (.move keys.pending keys.processing .right .left)).1 ((i, ⟨t, t.encode⟩) :: unsettled) ∧
      ∀ b, stock keys (s.step (.move keys.pending keys.processing .right .left)).1 b = stock keys s b := by
  have hne : keys.pending ≠ keys.processing := hk.apart
  have hperm := perm_of_taken? htaken
  obtain ⟨s', hs'⟩ : ∃ s', (s.step (.move keys.pending keys.processing .right .left)).1 = s' := ⟨_, rfl⟩
  have hpending : s'.lists keys.pending = rest := by
    rw [← hs']
    simp [Store.step, htaken, hne]
  have hprocessing : s'.lists keys.processing = t.encode :: s.lists keys.processing := by
    rw [← hs']
    simp [Store.step, htaken, hne.symm, Store.added]
  have hdead : s'.lists keys.dead = s.lists keys.dead := by
    rw [← hs']
    simp [Store.step, htaken, hk.dead_pending, hk.dead_processing]
  have hmembers : s'.members keys.scheduled = s.members keys.scheduled := by
    rw [← hs', Store.members, Store.sets_move, Store.members]
  rw [hs']
  refine ⟨⟨h.tasks_of [t.encode] (tasks_one ht) ?_ ?_ ?_, ?_, ?_, ?_, fun a ha => ?_⟩, fun b => ?_⟩
  · rw [hpending]
    exact fun x hx => List.mem_cons_of_mem _ (hperm.symm.subset (List.mem_cons_of_mem _ hx))
  · rw [hprocessing]
    exact List.Subset.refl _
  · rw [hmembers]
    exact List.subset_cons_self _ _
  · rw [hdead]
    exact h.letters
  · rw [hmembers]
    exact h.members
  · rw [hprocessing]
    exact h.inflight.cons _
  · rcases List.mem_cons.1 ha with rfl | ha
    · exact ⟨ht, rfl⟩
    · exact h.receipts a ha
  · simp only [stock, hpending, hprocessing, hdead, hmembers, copies_entries ht hperm, copies_entries ht (.refl _)]
    omega

/-- A delivery is taken out of the tasks in flight. -/
theorem Stocked.remove (hk : keys.Distinct) (h : Stocked keys s unsettled) {k : Nat} {d : Delivery}
    (hd : (k, d) ∈ unsettled) :
    Stocked keys (s.step (.remove keys.processing d.receipt)).1 (unsettled.eraseP fun a => some d = some a.2) ∧
      ∀ b, stock keys s b =
        stock keys (s.step (.remove keys.processing d.receipt)).1 b + if bare d.task = b then 1 else 0 := by
  obtain ⟨ht, hreceipt⟩ := h.receipts _ hd
  obtain ⟨a, l₁, l₂, -, ha, hsplit, herase⟩ :=
    List.exists_of_eraseP (p := fun a => decide (some d = some a.2)) hd (by simp)
  obtain rfl : d = a.2 := by simpa using ha
  have hunsettled : unsettled.Perm (a :: unsettled.eraseP fun b => some a.2 = some b.2) := by
    rw [herase, hsplit]
    exact List.perm_middle
  have hprocessing : (s.step (.remove keys.processing a.2.receipt)).1.lists keys.processing =
      (s.lists keys.processing).erase a.2.receipt := if_pos rfl
  have hpending : (s.step (.remove keys.processing a.2.receipt)).1.lists keys.pending = s.lists keys.pending :=
    if_neg hk.apart
  have hdead : (s.step (.remove keys.processing a.2.receipt)).1.lists keys.dead = s.lists keys.dead :=
    if_neg hk.dead_processing
  have hmembers : (s.step (.remove keys.processing a.2.receipt)).1.members keys.scheduled = s.members keys.scheduled := rfl
  have hinflight : (s.lists keys.processing).Perm
      (a.2.receipt :: (unsettled.eraseP fun b => some a.2 = some b.2).map (·.2.receipt)) :=
    h.inflight.trans (hunsettled.map _)
  have hmem : a.2.receipt ∈ s.lists keys.processing := hinflight.symm.subset List.mem_cons_self
  have hperm := List.perm_cons_erase hmem
  refine ⟨⟨h.tasks_of [] (by simp) ?_ ?_ (List.Subset.refl _), ?_, h.members, ?_,
    fun b hb => h.receipts b (List.mem_of_mem_eraseP hb)⟩, fun b => ?_⟩
  · rw [hpending]
    exact List.Subset.refl _
  · rw [hprocessing]
    exact List.erase_subset
  · rw [hdead]
    exact h.letters
  · rw [hprocessing]
    exact (hperm.symm.trans hinflight).cons_inv
  · have htask : (s.lists keys.processing).Perm (a.2.task.encode :: (s.lists keys.processing).erase a.2.receipt) := by
      rw [← hreceipt]
      exact hperm
    simp only [stock, hpending, hprocessing, hdead, hmembers, copies_entries ht htask]
    omega

/-- A dead letter is put in front of the others. -/
theorem Stocked.bury (hk : keys.Distinct) (h : Stocked keys s unsettled) {l : DeadLetter} (hl : l.Sound) :
    Stocked keys (s.step (.push keys.dead l.encode)).1 unsettled ∧
      ∀ b, stock keys (s.step (.push keys.dead l.encode)).1 b = stock keys s b + if bare l.task = b then 1 else 0 := by
  have hdead : (s.step (.push keys.dead l.encode)).1.lists keys.dead = l.encode :: s.lists keys.dead := if_pos rfl
  have hpending : (s.step (.push keys.dead l.encode)).1.lists keys.pending = s.lists keys.pending :=
    if_neg (Ne.symm hk.dead_pending)
  have hprocessing : (s.step (.push keys.dead l.encode)).1.lists keys.processing = s.lists keys.processing :=
    if_neg (Ne.symm hk.dead_processing)
  have hmembers : (s.step (.push keys.dead l.encode)).1.members keys.scheduled = s.members keys.scheduled := rfl
  refine ⟨⟨h.tasks_of [] (by simp) ?_ ?_ (List.Subset.refl _), fun x hx => ?_, h.members, ?_, h.receipts⟩,
    fun b => ?_⟩
  · rw [hpending]
    exact List.Subset.refl _
  · rw [hprocessing]
    exact List.Subset.refl _
  · rw [hdead] at hx
    rcases List.mem_cons.1 hx with rfl | hx
    · exact ⟨l, hl, rfl⟩
    · exact h.letters x hx
  · rw [hprocessing]
    exact h.inflight
  · simp only [stock, hpending, hprocessing, hdead, hmembers, List.filterMap_cons_some (readLetter?_encode hl), copies_cons]
    omega

end

end Courier.RedisQueue.Custody
