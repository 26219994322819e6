import Mathlib.Data.List.TakeWhile
import Courier.Proofs.Queue.Provenance
import Courier.Proofs.Redis.Retention
/-
Where the tasks come from that a queue on a Redis server hands out, however many clients
are at work on it, and whatever of that is refused or given up. A request puts in what
its stage names and nothing else, and what a client has in hand between two requests it
was told by the server. So every text on the queue was there from the start, or is the
text of a task that was put on the queue or is to be tried again.
-/

namespace Courier.RedisQueue

open Calendar (Moment)
open Redis (Store Reply)

/-! ## What is held after a request -/

section

variable {keys : RedisKeys} {s : Store} {x : String}

theorem Holds.of_push {key v : String} (h : Holds keys (s.step (.push key v)).1 x) :
    Holds keys s x ∨ x = v ∧ (key = keys.pending ∨ key = keys.processing) := by
  simp only [Holds, Store.step, Store.lists_setList] at h
  rcases h with h | h | h
  · split at h
    · next hk =>
      rcases List.mem_cons.1 h with h | h
      · exact .inr ⟨h, .inl hk.symm⟩
      · exact .inl (.inl (hk ▸ h))
    · exact .inl (.inl h)
  · split at h
    · next hk =>
      rcases List.mem_cons.1 h with h | h
      · exact .inr ⟨h, .inr hk.symm⟩
      · exact .inl (.inr (.inl (hk ▸ h)))
    · exact .inl (.inr (.inl h))
  · exact .inl (.inr (.inr h))

theorem Holds.of_remove {key v : String} (h : Holds keys (s.step (.remove key v)).1 x) : Holds keys s x := by
  have erased {k : String} (h : x ∈ (s.step (.remove key v)).1.lists k) : x ∈ s.lists k := by
    simp only [Store.step, Store.lists_setList] at h
    split at h
    · next hk => exact hk ▸ List.mem_of_mem_erase h
    · exact h
  exact h.imp erased (Or.imp erased id)

theorem Holds.of_score {key : String} {at_ : Int} {m : String} (h : Holds keys (s.step (.score key at_ m)).1 x) :
    Holds keys s x ∨ x = m := by
  rcases h with h | h | h
  · exact .inl (.inl h)
  · exact .inl (.inr (.inl h))
  · by_cases hk : keys.scheduled = key
    · rw [← hk, (Store.perm_members_score s keys.scheduled at_ m).mem_iff] at h
      rcases List.mem_cons.1 h with h | h
      · exact .inr h
      · exact .inl (.inr (.inr (List.mem_filter.1 h).1))
    · rw [(Store.members_step_of_ne hk at_ m).1] at h
      exact .inl (.inr (.inr h))

theorem Holds.of_unscore {key m : String} (h : Holds keys (s.step (.unscore key m)).1 x) : Holds keys s x := by
  refine h.imp id (Or.imp id fun h => ?_)
  by_cases hk : keys.scheduled = key
  · rw [← hk, Store.members_unscore] at h
    exact (List.mem_filter.1 h).1
  · rwa [(Store.members_step_of_ne hk 0 m).2] at h

theorem Holds.of_move (hk : keys.Apart) {source target : String} {taken put : Redis.Side}
    (hst : (source = keys.pending ∧ target = keys.processing) ∨ (source = keys.processing ∧ target = keys.pending))
    (h : Holds keys (s.step (.move source target taken put)).1 x) : Holds keys s x := by
  have hmoved (hne : source ≠ target)
      (h : x ∈ (s.step (.move source target taken put)).1.lists source ∨
        x ∈ (s.step (.move source target taken put)).1.lists target) : x ∈ s.lists source ∨ x ∈ s.lists target :=
    (Store.mem_move hne).1 h
  unfold Holds at h
  rw [Store.members, Store.sets_move, ← or_assoc] at h
  rcases hst with ⟨rfl, rfl⟩ | ⟨rfl, rfl⟩
  · exact or_assoc.1 (h.imp (hmoved hk) id)
  · exact or_assoc.1 (h.imp (fun h => (hmoved (Ne.symm hk) h.symm).symm) id)

/-- **What is held after a request was held before, or the stage puts it in.** -/
theorem Stage.holds_cases (hk : keys.Distinct) {c : QueueCall} (st : Stage c) (clock : Moment)
    (h : Holds keys (s.perform (st.request keys clock)).1 x) : Holds keys s x ∨ st.puts? = some x := by
  have buried {s : Store} {v : String} (h : Holds keys (s.step (.push keys.dead v)).1 x) : Holds keys s x := by
    rcases h.of_push with h | ⟨-, h | h⟩
    · exact h
    · exact absurd h hk.dead_pending
    · exact absurd h hk.dead_processing
  cases st with
  | adding t => exact h.of_push.imp id fun h => congrArg some h.1.symm
  | listing | counting => exact .inl h
  | claiming raw rest => exact .inl h.of_unscore
  | promoting raw rest => exact h.of_push.imp id fun h => congrArg some h.1.symm
  | taking => exact .inl (h.of_move hk.apart (.inl ⟨rfl, rfl⟩))
  | burying raw reason => exact .inl (buried h).of_remove
  | releasing d => exact .inl h.of_remove
  | rescheduling d wait => exact h.of_score.imp (fun h => h.of_remove) fun h => congrArg some h.symm
  | abandoning d reason => exact .inl (buried h).of_remove
  | recovering n => exact .inl (h.of_move hk.apart (.inr ⟨rfl, rfl⟩))

end

/-! ## What a client has in hand -/

namespace Stage

variable {c : QueueCall}

/-- The texts that a client was told of and has not dealt with. -/
def inHand : Stage c → List String
  | claiming raw rest | promoting raw rest => raw :: rest
  | adding _ | listing | taking | burying _ _ | releasing _ | rescheduling _ _ | abandoning _ _ | recovering _ | counting => []

theorem inHand_promote (rest : List String) : (promote rest).inHand = rest := by
  cases rest <;> rfl

theorem inHand_start (c : QueueCall) : (start c).inHand = [] := by
  cases c <;> rfl

/-- A client has in hand what it had before, or what was put aside and is due. -/
theorem inHand_due {keys : RedisKeys} {s : Store} {st st' : Stage c} {clock : Moment} {x : String}
    (h : st.receive (s.perform (st.request keys clock)).2 = .stage st') (hx : x ∈ st'.inHand) :
    x ∈ st.inHand ∨ ∃ due ≤ Redis.asDouble clock.unixMillis, (due, x) ∈ s.sets keys.scheduled := by
  obtain ⟨r', hr⟩ := checked_of_receive h nofun
  cases st with
  | listing =>
    right
    have hreply : (s.perform (listing.request keys clock)).2 =
        .list ((((s.sets keys.scheduled).takeWhile (·.1 ≤ Redis.asDouble clock.unixMillis)).take promotionLimit
          |>.map (·.2)).map .text) := by
      rw [List.map_map]
      rfl
    rw [hreply, World.receive_listing] at h
    cases h
    rw [inHand_promote] at hx
    obtain ⟨m, hm, rfl⟩ := List.mem_map.1 hx
    have hm := List.mem_of_mem_take hm
    exact ⟨m.1, by simpa using List.mem_takeWhile_imp hm, (List.takeWhile_prefix _).mem hm⟩
  | claiming raw rest =>
    left
    obtain ⟨n, -, hs⟩ := ok_of_map hr
    cases hs
    split at hx
    · exact hx
    · rw [inHand_promote] at hx
      exact List.mem_cons_of_mem _ hx
  | promoting raw rest =>
    left
    cases hr
    rw [inHand_promote] at hx
    exact List.mem_cons_of_mem _ hx
  | taking =>
    obtain ⟨found, -, hs⟩ := ok_of_map hr
    cases found with
    | some raw =>
      have hs : taken raw = .stage st' := hs
      unfold taken at hs
      split at hs
      · cases hs
      · cases hs
        cases hx
    | none => cases hs
  | burying raw reason =>
    obtain ⟨_, -, hs⟩ := ok_of_map hr
    cases hs
    cases hx
  | adding _ | releasing _ => simp [receiveChecked, closed] at hr
  | rescheduling _ _ | abandoning _ _ | counting =>
    obtain ⟨_, -, hs⟩ := ok_of_map hr
    cases hs
  | recovering n =>
    obtain ⟨found, -, hs⟩ := ok_of_map hr
    cases found with
    | some _ =>
      cases hs
      cases hx
    | none => cases hs

/-- So it has in hand what it had before, or what the store holds. -/
theorem inHand_receive {keys : RedisKeys} {s : Store} {st st' : Stage c} {clock : Moment} {x : String}
    (h : st.receive (s.perform (st.request keys clock)).2 = .stage st') (hx : x ∈ st'.inHand) :
    x ∈ st.inHand ∨ Holds keys s x := by
  rcases inHand_due h hx with hx | ⟨due, -, hmem⟩
  · exact .inl hx
  · exact .inr (.inr (.inr (List.mem_map_of_mem hmem)))

/-- The receipt of a delivery is a text that the store held. -/
theorem holds_receipt {keys : RedisKeys} {s : Store} {st : Stage .dequeue} {clock : Moment} {d : Delivery}
    (h : st.receive (s.perform (st.request keys clock)).2 = .finished (.ok (some d))) : Holds keys s d.receipt := by
  obtain ⟨r', hr⟩ := checked_of_receive h nofun
  cases st with
  | listing | burying _ _ =>
    obtain ⟨_, -, hs⟩ := ok_of_map hr
    cases hs
  | claiming raw rest =>
    obtain ⟨n, -, hs⟩ := ok_of_map hr
    cases hs
  | promoting raw rest => cases hr
  | taking =>
    obtain ⟨found, -, hs⟩ := ok_of_map hr
    cases htaken : Store.taken? .right (s.lists keys.pending) with
    | none =>
      have hreply : (s.perform (taking.request keys clock)).2 = .nothing := by
        simp only [request, Store.perform, Store.step, htaken]
      rw [hreply] at h
      cases h
    | some p =>
      obtain ⟨raw, rest⟩ := p
      have hreply : (s.perform (taking.request keys clock)).2 = .text raw := by
        simp only [request, Store.perform, Store.step, htaken]
      rw [hreply, World.receive_text] at h
      unfold taken at h
      split at h
      · cases h
        exact .inl ((Store.mem_of_taken? htaken).2 (.inl rfl))
      · cases h

end Stage

/-! ## Whole courses -/

/-- Whether a text is read as nothing but a task with a property. -/
def ReadsAs (P : Task → Prop) (x : String) : Prop := ∀ t, Task.decode x = .ok t → P t

namespace World

/-- Whether all tasks there are have a property: on the queue, with clients, and handed out. -/
structure Traced (P : Task → Prop) (keys : RedisKeys) (w : World) : Prop where
  held : ∀ x, Holds keys w.store x → ReadsAs P x
  inHand : ∀ i c (s : Stage c), w.clients i = .busy c s → ∀ x ∈ s.inHand, ReadsAs P x
  delivered : ∀ d ∈ w.delivered, P d.task

section

variable {P : Task → Prop} {keys : RedisKeys} {w w' : World} {i : Nat} {c : QueueCall} {s : Stage c}

/-- What is asked brings only tasks with a property, if those that were handed out have it. -/
def Brings (P : Task → Prop) (c : QueueCall) : Prop :=
  (∀ t, c = .enqueue t → P t) ∧ ∀ d wait, c = .retry d wait → P d.task → P d.task.next

/-- A text that is put in is the text of a task with the property. -/
theorem Traced.puts (h : Traced P keys w) (hinv : Invariant keys w) (busy : w.clients i = .busy c s) (hc : Brings P c)
    {x : String} (hx : s.puts? = some x) : ReadsAs P x := by
  have hrightful := hinv.rightful i c s busy
  cases s with
  | adding t =>
    obtain rfl := Option.some.inj hx
    intro u hu
    rw [Task.decode_encode hrightful] at hu
    cases hu
    exact hc.1 t rfl
  | promoting raw rest =>
    obtain rfl := Option.some.inj hx
    exact h.inHand i _ _ busy raw List.mem_cons_self
  | rescheduling d wait =>
    obtain rfl := Option.some.inj hx
    have hsound := Task.decode_sound (hinv.genuine d hrightful)
    intro u hu
    rw [Task.decode_encode hsound.next] at hu
    cases hu
    exact hc.2 d wait rfl (h.delivered d hrightful)
  | claiming _ _ | burying _ _ | releasing _ | abandoning _ _ | listing | taking | recovering _ | counting =>
    simp [Stage.puts?] at hx

theorem Traced.act (hk : keys.Distinct) (h : Traced P keys w) (hinv : Invariant keys w) (busy : w.clients i = .busy c s)
    (hc : Brings P c) (clock : Moment) : Traced P keys (w.act keys clock i s) where
  held x hx := by
    rw [World.act, goOn_store] at hx
    rcases s.holds_cases hk clock hx with hx | hx
    · exact h.held x hx
    · exact h.puts hinv busy hc hx
  inHand j c' s' hj x hx := by
    rw [World.act, goOn_clients] at hj
    split at hj
    · cases hnext : s.receive (w.store.perform (s.request keys clock)).2 with
      | stage s'' =>
        rw [hnext] at hj
        cases hj
        rcases Stage.inHand_receive hnext hx with hx | hx
        · exact h.inHand i c s busy x hx
        · exact h.held x hx
      | finished a =>
        rw [hnext] at hj
        cases hj
    · exact h.inHand j c' s' hj x hx
  delivered d hd := by
    rcases mem_delivered_goOn hd with hd | ⟨rfl, hnext⟩
    · exact h.delivered d hd
    · exact h.held d.receipt (Stage.holds_receipt hnext) d.task (Stage.receive_delivery hnext)

/-- A client that is at another task, or at none, changes nothing else. -/
theorem Traced.turn (h : Traced P keys w) {client : Client} (dropped : List String)
    (hclient : ∀ c (s : Stage c), client = .busy c s → s.inHand = []) :
    Traced P keys ({ w with dropped }.setClient i client) where
  held := h.held
  inHand j c s hj x hx := by
    simp only [setClient] at hj
    split at hj
    · rw [hclient c s hj] at hx
      cases hx
    · exact h.inHand j c s hj x hx
  delivered := h.delivered

theorem Traced.step (hk : keys.Distinct) (h : Traced P keys w) (hinv : Invariant keys w) (hstep : Step keys w w')
    (hbrings : ∀ i c s, w.clients i = .busy c s → Brings P c) : Traced P keys w' := by
  cases hstep with
  | @start i c idle may =>
    refine h.turn w.dropped fun c' s' hs => ?_
    cases hs
    exact Stage.inHand_start c
  | act busy clock => exact h.act hk hinv busy (hbrings _ _ _ busy) clock
  | refuse busy error =>
    rw [refuse, Stage.receive_failed, goOn_finished_error]
    exact h.turn _ fun c' s' hs => by cases hs
  | stop i => exact h.turn _ fun c' s' hs => by cases hs

end

/-- What a client began to ask in a course of steps. -/
def Begun (ws : List World) (c : QueueCall) : Prop := ∃ w ∈ ws, ∃ i s, w.clients i = .busy c s

/-- The tasks that the queue held at the start of a course. -/
def HeldFirst (keys : RedisKeys) (ws : List World) (t : Task) : Prop :=
  ∃ w ∈ ws.getLast?, ∃ x, Holds keys w.store x ∧ Task.decode x = .ok t

theorem Course.traced {P : Task → Prop} {keys : RedisKeys} (hk : keys.Distinct) {w : World} {ws : List World}
    (h : Course keys (w :: ws)) (hheld : ∀ t, HeldFirst keys (w :: ws) t → P t)
    (hbrings : ∀ c, Begun (w :: ws) c → Brings P c) :
    Traced P keys w := by
  generalize hws : w :: ws = all at h hheld hbrings
  induction h generalizing w ws with
  | @start w₀ hinitial =>
    cases hws
    refine ⟨fun x hx t ht => hheld t ⟨_, rfl, x, hx, ht⟩, fun i c s hs => ?_, fun d hd => ?_⟩
    · rw [hinitial.idle] at hs
      cases hs
    · rw [hinitial.delivered] at hd
      cases hd
  | @step w₀ w' ws' hcourse hstep ih =>
    cases hws
    have hbefore : ∀ c, Begun (w₀ :: ws') c → Brings P c := fun c ⟨v, hv, hc⟩ => hbrings c ⟨v, List.mem_cons_of_mem _ hv, hc⟩
    have htraced := ih rfl (fun t ht => hheld t ht) hbefore
    exact htraced.step hk (hcourse.invariant hk.apart w₀ List.mem_cons_self) hstep fun i c s hs =>
      hbefore c ⟨w₀, List.mem_cons_self, i, s, hs⟩

/-- **What a queue on a Redis server hands out comes from what it held and what clients asked.** -/
theorem Course.stems {keys : RedisKeys} (hk : keys.Distinct) {w : World} {ws : List World} (h : Course keys (w :: ws)) :
    ∀ d ∈ w.delivered, d.task.Stems (HeldFirst keys (w :: ws)) (Begun (w :: ws)) := by
  refine (h.traced (P := Task.Stems (HeldFirst keys (w :: ws)) (Begun (w :: ws))) hk (fun _ => .held) fun c hc => ?_).delivered
  refine ⟨fun t ht => .enqueued (ht ▸ hc), fun d wait hd htask => ?_⟩
  subst hd
  exact .retried hc htask

end World

end Courier.RedisQueue
