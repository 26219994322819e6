import Courier.Queue.Redis
/-
What a store holds for a queue, and what one request of a client does to it. A
text is held if it is in the list of waiting tasks, in the list of tasks in
flight, or in the set of tasks put aside.

A request only ever takes the text away that its stage names, and puts the text
in that its stage names; everything else that is held stays held. So all that
follows about interleaved clients needs no command looked at again.
-/

namespace Courier.Redis.Store

/-! ## Commands -/

/-- The members of a set, without their scores. -/
def members (s : Store) (key : String) : List String := (s.sets key).map (·.2)

theorem perm_insertMember (m : Int × String) (l : List (Int × String)) : (insertMember m l).Perm (m :: l) := by
  induction l with
  | nil => exact .refl _
  | cons n l ih =>
    simp only [insertMember]
    split
    · exact .refl _
    · exact (ih.cons n).trans (.swap m n l)

theorem mem_added {side : Side} {v x : String} {l : List String} : x ∈ added side v l ↔ x = v ∨ x ∈ l := by
  cases side <;> simp [added, or_comm]

theorem mem_of_taken? {side : Side} {l rest : List String} {v : String} (h : taken? side l = some (v, rest))
    {x : String} : x ∈ l ↔ x = v ∨ x ∈ rest := by
  cases side with
  | left =>
    cases l with
    | nil => simp [taken?] at h
    | cons y l =>
      simp only [taken?, List.head?_cons, Option.map_some, List.tail_cons, Option.some.injEq, Prod.mk.injEq] at h
      obtain ⟨rfl, rfl⟩ := h
      exact List.mem_cons
  | right =>
    simp only [taken?, Option.map_eq_some_iff, Prod.mk.injEq] at h
    obtain ⟨w, hw, rfl, rfl⟩ := h
    have hne : l ≠ [] := by rintro rfl; simp at hw
    rw [List.getLast?_eq_some_getLast hne, Option.some.injEq] at hw
    have hsplit := List.dropLast_concat_getLast hne
    rw [hw] at hsplit
    have hmem : x ∈ l ↔ x ∈ l.dropLast ++ [w] := by rw [hsplit]
    rw [hmem, List.mem_append, List.mem_singleton, or_comm]

/-- A value moved between two lists is in one of them before and after. -/
theorem mem_move {s : Store} {source target : String} {taken put : Side} (hne : source ≠ target) {x : String} :
    (x ∈ (s.step (.move source target taken put)).1.lists source ∨
        x ∈ (s.step (.move source target taken put)).1.lists target) ↔
      x ∈ s.lists source ∨ x ∈ s.lists target := by
  simp only [step]
  cases h : taken? taken (s.lists source) with
  | none => rfl
  | some p =>
    obtain ⟨v, rest⟩ := p
    simp only [lists_setList, if_true, hne, Ne.symm hne, if_false, mem_added, mem_of_taken? h]
    constructor
    · rintro (h | h | h) <;> simp [h]
    · rintro ((h | h) | h) <;> simp [h]

theorem sets_move (s : Store) (source target : String) (taken put : Side) :
    (s.step (.move source target taken put)).1.sets = s.sets := by
  simp only [step]
  cases taken? taken (s.lists source) <;> rfl

theorem members_unscore (s : Store) (key member : String) :
    (s.step (.unscore key member)).1.members key = (s.members key).filter (· ≠ member) := by
  simp [step, members, List.filter_map, Function.comp_def]

theorem perm_members_score (s : Store) (key : String) (at_ : Int) (member : String) :
    ((s.step (.score key at_ member)).1.members key).Perm (member :: (s.members key).filter (· ≠ member)) := by
  have h := (perm_insertMember (asDouble at_, member) ((s.sets key).filter (·.2 ≠ member))).map (·.2)
  simpa [step, members, List.filter_map, Function.comp_def] using h

/-- With distinct members, the reply to taking one out tells whether it was there. -/
theorem reply_unscore {s : Store} {key : String} (member : String) (h : (s.members key).Nodup) :
    (s.step (.unscore key member)).2 = .int (if member ∈ s.members key then 1 else 0) := by
  have herase := h.erase_eq_filter member
  have hlen := congrArg List.length herase
  rw [List.length_erase] at hlen
  have hmembers : (s.members key).length = (s.sets key).length := List.length_map ..
  have hothers : ((s.members key).filter (· != member)).length = ((s.sets key).filter (·.2 ≠ member)).length := by
    rw [members, List.filter_map, List.length_map]
    congr 1
    exact List.filter_congr fun m _ => by by_cases hm : m.2 = member <;> simp [hm]
  simp only [step]
  rw [← hothers, ← hlen, ← hmembers]
  split
  · next hmem =>
    have hpos : 0 < (s.members key).length := List.length_pos_of_mem hmem
    simp only [Reply.int.injEq]
    omega
  · simp

theorem members_step_of_ne {s : Store} {key k : String} (hne : k ≠ key) (at_ : Int) (m : String) :
    (s.step (.score key at_ m)).1.members k = s.members k ∧
      (s.step (.unscore key m)).1.members k = s.members k := by
  simp [step, members, hne]

theorem nodup_step {s : Store} {key : String} (h : (s.members key).Nodup) (c : Command) :
    ((s.step c).1.members key).Nodup := by
  cases c with
  | score k at_ m =>
    by_cases hk : key = k
    · subst hk
      rw [(perm_members_score s key at_ m).nodup_iff, List.nodup_cons]
      exact ⟨by simp, h.filter _⟩
    · rw [(members_step_of_ne hk at_ m).1]
      exact h
  | unscore k m =>
    by_cases hk : key = k
    · subst hk
      rw [members_unscore]
      exact h.filter _
    · rw [(members_step_of_ne hk 0 m).2]
      exact h
  | move source target taken put =>
    simp only [members, sets_move]
    exact h
  | push _ _ | remove _ _ | length _ | lowest _ _ _ | size _ | authenticate _ _ | select _ => exact h

theorem nodup_steps {s : Store} {key : String} (h : (s.members key).Nodup) (cs : List Command) :
    ((s.steps cs).1.members key).Nodup := by
  induction cs generalizing s with
  | nil => exact h
  | cons c cs ih => exact ih (nodup_step h c)

/-- The members of a set stay distinct, whatever is asked. -/
theorem nodup_perform {s : Store} {key : String} (h : (s.members key).Nodup) (r : Request) :
    ((s.perform r).1.members key).Nodup := by
  cases r with
  | single c => exact nodup_step h c
  | block cs | batch cs => exact nodup_steps h cs

end Courier.Redis.Store

namespace Courier

open Redis (Store Reply)

/-- Whether the keys of a queue keep its lists of tasks apart. -/
def RedisKeys.Apart (keys : RedisKeys) : Prop := keys.pending ≠ keys.processing

theorem RedisKeys.apart_startingWith (start : String) : (RedisKeys.startingWith start).Apart := by
  intro h
  have h := (String.append_right_inj start).1 h
  revert h
  decide

/-- Whether the keys of a queue keep all its lists apart. -/
structure RedisKeys.Distinct (keys : RedisKeys) : Prop where
  apart : keys.Apart
  dead_pending : keys.dead ≠ keys.pending
  dead_processing : keys.dead ≠ keys.processing

theorem RedisKeys.distinct_startingWith (start : String) : (RedisKeys.startingWith start).Distinct := by
  refine ⟨RedisKeys.apart_startingWith start, fun h => ?_, fun h => ?_⟩
  · have h := (String.append_right_inj start).1 h
    revert h
    decide
  · have h := (String.append_right_inj start).1 h
    revert h
    decide

namespace RedisQueue

/-- Whether the queue holds a text: waiting, in flight, or put aside. -/
def Holds (keys : RedisKeys) (s : Store) (x : String) : Prop :=
  x ∈ s.lists keys.pending ∨ x ∈ s.lists keys.processing ∨ x ∈ s.members keys.scheduled

variable {keys : RedisKeys} {s : Store} {x : String}

/-! ## What commands do to what is held -/

theorem Holds.mono {s' : Store} (h : Holds keys s x) (hlists : ∀ k, x ∈ s.lists k → x ∈ s'.lists k)
    (hmembers : ∀ k, x ∈ s.members k → x ∈ s'.members k) : Holds keys s' x := by
  rcases h with h | h | h
  · exact .inl (hlists _ h)
  · exact .inr (.inl (hlists _ h))
  · exact .inr (.inr (hmembers _ h))

theorem Holds.push (h : Holds keys s x) (key v : String) : Holds keys (s.step (.push key v)).1 x := by
  refine h.mono (fun k hx => ?_) fun _ hx => hx
  simp only [Store.step, Store.lists_setList]
  split
  · next hk => subst hk; exact List.mem_cons_of_mem v hx
  · exact hx

theorem Holds.remove (h : Holds keys s x) {key v : String} (hne : x ≠ v) : Holds keys (s.step (.remove key v)).1 x := by
  refine h.mono (fun k hx => ?_) fun _ hx => hx
  simp only [Store.step, Store.lists_setList]
  split
  · next hk => subst hk; exact (List.mem_erase_of_ne hne).2 hx
  · exact hx

theorem Holds.score (h : Holds keys s x) (key : String) (at_ : Int) (m : String) :
    Holds keys (s.step (.score key at_ m)).1 x := by
  refine h.mono (fun k hx => hx) fun k hx => ?_
  by_cases hk : k = key
  · subst hk
    rw [(Store.perm_members_score s k at_ m).mem_iff]
    by_cases hm : x = m <;> simp [hm, hx]
  · rw [(Store.members_step_of_ne hk at_ m).1]
    exact hx

theorem Holds.unscore (h : Holds keys s x) {key m : String} (hne : x ≠ m) :
    Holds keys (s.step (.unscore key m)).1 x := by
  refine h.mono (fun k hx => hx) fun k hx => ?_
  by_cases hk : k = key
  · subst hk
    rw [Store.members_unscore]
    simp [hx, hne]
  · rw [(Store.members_step_of_ne hk 0 m).2]
    exact hx

/-- Tasks moved from one list of tasks to the other stay held. -/
theorem Holds.move (h : Holds keys s x) (hk : keys.Apart) {source target : String} {taken put : Redis.Side}
    (hst : (source = keys.pending ∧ target = keys.processing) ∨ (source = keys.processing ∧ target = keys.pending)) :
    Holds keys (s.step (.move source target taken put)).1 x := by
  have hmoved (h : x ∈ s.lists source ∨ x ∈ s.lists target) (hne : source ≠ target) :
      x ∈ (s.step (.move source target taken put)).1.lists source ∨
        x ∈ (s.step (.move source target taken put)).1.lists target :=
    (Store.mem_move hne).2 h
  rcases hst with ⟨rfl, rfl⟩ | ⟨rfl, rfl⟩
  · rcases h with h | h | h
    · exact or_assoc.1 (.inl (hmoved (.inl h) hk))
    · exact or_assoc.1 (.inl (hmoved (.inr h) hk))
    · exact .inr (.inr (by simpa only [Store.members, Store.sets_move] using h))
  · rcases h with h | h | h
    · exact or_assoc.1 (.inl (hmoved (.inr h) (Ne.symm hk)).symm)
    · exact or_assoc.1 (.inl (hmoved (.inl h) (Ne.symm hk)).symm)
    · exact .inr (.inr (by simpa only [Store.members, Store.sets_move] using h))

namespace Stage

/-- The text that the next request takes away, wherever it goes. -/
def takes? {c : QueueCall} : Stage c → Option String
  | claiming raw _ | burying raw _ => some raw
  | releasing d | rescheduling d _ | abandoning d _ => some d.receipt
  | adding _ | listing | promoting _ _ | taking | recovering _ | counting => none

/-- The text that the next request puts in. -/
def puts? {c : QueueCall} : Stage c → Option String
  | adding t => some t.encode
  | promoting raw _ => some raw
  | rescheduling d _ => some d.task.next.encode
  | claiming _ _ | burying _ _ | releasing _ | abandoning _ _ | listing | taking | recovering _ | counting => none

variable {c : QueueCall}

/-- **Nothing that is held goes away, but for the text that the stage names.** -/
theorem holds_perform (hk : keys.Apart) (st : Stage c) (clock : Calendar.Moment) (h : Holds keys s x)
    (hne : st.takes? ≠ some x) : Holds keys (s.perform (st.request keys clock)).1 x := by
  cases st with
  | adding t => exact h.push _ _
  | listing => exact h
  | claiming raw rest => exact h.unscore fun he => hne (congrArg some he.symm)
  | promoting raw rest => exact h.push _ _
  | taking => exact h.move hk (.inl ⟨rfl, rfl⟩)
  | burying raw reason => exact (h.remove fun he => hne (congrArg some he.symm)).push _ _
  | releasing d => exact h.remove fun he => hne (congrArg some he.symm)
  | rescheduling d wait => exact (h.remove fun he => hne (congrArg some he.symm)).score _ _ _
  | abandoning d reason => exact (h.remove fun he => hne (congrArg some he.symm)).push _ _
  | recovering n => exact h.move hk (.inr ⟨rfl, rfl⟩)
  | counting => exact h

/-- What a stage puts in is held then. -/
theorem holds_of_puts (st : Stage c) (clock : Calendar.Moment) (h : st.puts? = some x) :
    Holds keys (s.perform (st.request keys clock)).1 x := by
  cases st with
  | adding t =>
    obtain rfl := Option.some.inj h
    left
    simp [request, Store.perform, Store.step]
  | promoting raw rest =>
    obtain rfl := Option.some.inj h
    left
    simp [request, Store.perform, Store.step]
  | rescheduling d wait =>
    obtain rfl := Option.some.inj h
    right; right
    exact (Store.perm_members_score _ _ _ _).mem_iff.2 (List.mem_cons_self ..)
  | claiming _ _ | burying _ _ | releasing _ | abandoning _ _ | listing | taking | recovering _ | counting =>
    simp [puts?] at h

end Stage
end RedisQueue
end Courier
