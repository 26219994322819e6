import Mathlib.Data.List.Nodup
import Mathlib.Logic.Relation
import Courier.Proofs.Queue.Backoff
import Courier.Proofs.Redis.Provenance
import Courier.Proofs.Redis.Settlement
import Courier.Settings
/-
When a task that is put aside is due again. The due time that is sent is a whole number of 64 bits: the
wait is brought into their range, added to the clock, and the sum brought into it as well. So it is the
time at which the wait is over as long as that time is in the range, and a time that is past already if
not. The server keeps it as a double, so it may be rounded.

Up to its due time a task stays put aside, whatever all clients do: only what is due is listed, and only
what was listed to a client is taken out by it. The invariant is that no client was told of the text.
-/

namespace Courier.RedisQueue

open Calendar (Moment)
open Number (Binary64)
open Redis (Store Reply Ranked)

/-! ## Due times -/

section

variable {now : Moment} {wait : Nat}

/-- Beyond the range of 64 bits the time that is sent is sooner than the moment itself, and so is what is kept. -/
theorem asDouble_dueTime_lt (hnow : now.Sound) (hwait : wait < 2 ^ 64) (h : 2 ^ 63 ≤ now.unixMillis + wait) :
    Redis.asDouble (dueTime now wait) < now.unixMillis := by
  have hbounds := hnow.unixMillis_bounds
  have hsent : dueTime now wait < now.unixMillis := by
    rw [dueTime, cut64, cut64, Int.add_bmod_bmod, ← Int.sub_bmod_right, Int.bmod_eq_of_le] <;> omega
  have hleast : -2 ^ 63 ≤ dueTime now wait := Int.le_bmod (m := 2 ^ 64) (by decide)
  rcases le_or_gt (-2 ^ 53) (dueTime now wait) with hfew | hmany
  · rw [Redis.asDouble_eq (by omega)]
    exact hsent
  · have hnear := Redis.asDouble_near (n := dueTime now wait) (by omega)
    omega

/-- A score is no sooner than the wait asks for just if the time is in the range of 64 bits, and is not rounded down. -/
theorem le_asDouble_dueTime_iff (hnow : now.Sound) (hwait : wait < 2 ^ 64) :
    now.unixMillis + wait ≤ Redis.asDouble (dueTime now wait) ↔
      now.unixMillis + wait < 2 ^ 63 ∧ now.unixMillis + wait ≤ Redis.asDouble (now.unixMillis + wait) := by
  have hbounds := hnow.unixMillis_bounds
  rcases lt_or_ge (now.unixMillis + (wait : Int)) (2 ^ 63) with hrange | hbeyond
  · rw [dueTime_eq (by omega) hrange, and_iff_right hrange]
  · have hsoon := asDouble_dueTime_lt hnow hwait hbeyond
    exact iff_of_false (by omega) (by omega)

end

/-! ## Before a task is due -/

theorem Stage.mem_inHand_of_claims {c : QueueCall} {st : Stage c} {x : String} (h : st.claims? = some x) : x ∈ st.inHand := by
  cases st with
  | claiming raw rest =>
    obtain rfl := Option.some.inj h
    exact List.mem_cons_self
  | adding _ | listing | promoting _ _ | taking | burying _ _ | releasing _ | rescheduling _ _ | abandoning _ _
  | recovering _ | counting => cases h

/-- A member keeps its score unless it is taken out of the set, or put aside again. -/
theorem mem_perform {keys : RedisKeys} {s : Store} {c : QueueCall} (st : Stage c) (clock : Moment) {due : Int} {x : String}
    (hmem : (due, x) ∈ s.sets keys.scheduled) (hclaims : st.claims? ≠ some x)
    (hagain : ∀ d wait, c = .retry d wait → d.task.next.encode ≠ x) :
    (due, x) ∈ (s.perform (st.request keys clock)).1.sets keys.scheduled := by
  cases st with
  | adding _ | listing | promoting _ _ | releasing _ | burying _ _ | abandoning _ _ | counting => exact hmem
  | taking | recovering _ =>
    show (due, x) ∈ (s.step (.move _ _ _ _)).1.sets keys.scheduled
    rw [Store.sets_move]
    exact hmem
  | claiming raw rest =>
    have hne : x ≠ raw := fun h => hclaims (congrArg some h.symm)
    simp only [Stage.request, Store.perform, Store.step, Store.sets_setSet, if_true]
    exact List.mem_filter.2 ⟨hmem, by simpa using hne⟩
  | rescheduling d wait =>
    have hne : x ≠ d.task.next.encode := fun h => hagain d wait rfl h.symm
    simp only [Stage.request, Store.perform, Store.steps, Store.step, Store.sets_setSet, Store.sets_setList, if_true]
    exact (Store.perm_insertMember _ _).mem_iff.2 (List.mem_cons_of_mem _ (List.mem_filter.2 ⟨hmem, by simpa using hne⟩))

namespace World

/-- Whether a text is put aside until a time, and no client was told of it as due. -/
structure Waits (keys : RedisKeys) (due : Int) (x : String) (w : World) : Prop where
  ranked : Ranked (w.store.sets keys.scheduled)
  scheduled : (due, x) ∈ w.store.sets keys.scheduled
  untold : ∀ i c (s : Stage c), w.clients i = .busy c s → x ∉ s.inHand

/-- One step of one client before a time, by which a text is not put aside again. -/
inductive EarlyStep (keys : RedisKeys) (due : Int) (x : String) (w : World) : World → Prop
  | start {i : Nat} {c : QueueCall} (idle : w.clients i = .idle) (may : w.May c) :
    EarlyStep keys due x w (w.setClient i (.busy c (Stage.start c)))
  | act {i : Nat} {c : QueueCall} {s : Stage c} (busy : w.clients i = .busy c s) {clock : Moment}
    (sound : clock.Sound) (early : clock.unixMillis < due) (other : ∀ d wait, c = .retry d wait → d.task.next.encode ≠ x) :
    EarlyStep keys due x w (w.act keys clock i s)
  | refuse {i : Nat} {c : QueueCall} {s : Stage c} (busy : w.clients i = .busy c s) (error : String) :
    EarlyStep keys due x w (w.refuse i s error)
  | stop (i : Nat) : EarlyStep keys due x w (w.stop i)

variable {keys : RedisKeys} {due : Int} {x : String} {w w' : World}

theorem Waits.turn (h : Waits keys due x w) {i : Nat} {client : Client}
    (hclient : ∀ c (s : Stage c), client = .busy c s → x ∉ s.inHand) (dropped : List String) :
    Waits keys due x ({ w with dropped }.setClient i client) where
  ranked := h.ranked
  scheduled := h.scheduled
  untold j c s hj := by
    simp only [setClient] at hj
    split at hj
    · exact hclient c s hj
    · exact h.untold j c s hj

/-- A member has one score. -/
theorem Waits.score (h : Waits keys due x w) {due' : Int} (hmem : (due', x) ∈ w.store.sets keys.scheduled) : due' = due :=
  congrArg Prod.fst (List.inj_on_of_nodup_map h.ranked.distinct hmem h.scheduled rfl)

theorem Waits.step (h : Waits keys due x w) (hstep : EarlyStep keys due x w w') : Waits keys due x w' := by
  cases hstep with
  | @start i c idle may =>
    refine h.turn (fun c' s' hs => ?_) w.dropped
    cases hs
    simp [Stage.inHand_start]
  | @act i c s busy clock sound early other =>
    have huntold := h.untold i c s busy
    refine ⟨?_, ?_, fun j c' s' hj => ?_⟩
    · rw [act, goOn_store]
      exact Store.ranked_perform h.ranked _
    · rw [act, goOn_store]
      exact mem_perform s clock h.scheduled (fun hclaims => huntold (Stage.mem_inHand_of_claims hclaims)) other
    · rw [act, goOn_clients] at hj
      split at hj
      · cases hnext : s.receive (w.store.perform (s.request keys clock)).2 with
        | stage s'' =>
          rw [hnext] at hj
          cases hj
          intro hx
          rcases Stage.inHand_due hnext hx with hx | ⟨due', hdue, hmem⟩
          · exact huntold hx
          · rw [h.score hmem, Redis.asDouble_unixMillis sound] at hdue
            omega
        | finished a =>
          rw [hnext] at hj
          cases hj
      · exact h.untold j c' s' hj
  | @refuse i c s busy error =>
    rw [refuse, Stage.receive_failed, goOn_finished_error]
    exact h.turn (fun c' s' hs => by cases hs) _
  | stop i => exact h.turn (fun c' s' hs => by cases hs) _

/-- What is put aside until a time is still there as long as the time has not come. -/
theorem Waits.steps (h : Waits keys due x w) (hsteps : Relation.ReflTransGen (EarlyStep keys due x) w w') :
    Waits keys due x w' := by
  induction hsteps with
  | refl => exact h
  | tail _ hstep ih => exact ih.step hstep

/-- A task that is to be tried again waits from the one request on by which it is put aside. -/
theorem waits_act_retry {i : Nat} {d : Delivery} {wait : Nat} {now : Moment} (ranked : Ranked (w.store.sets keys.scheduled))
    (untold : ∀ j c (s : Stage c), w.clients j = .busy c s → d.task.next.encode ∉ s.inHand) :
    Waits keys (Redis.asDouble (dueTime now wait)) d.task.next.encode (w.act keys now i (Stage.start (.retry d wait))) where
  ranked := by
    rw [act, goOn_store]
    exact Store.ranked_perform ranked _
  scheduled := by
    rw [act, goOn_store]
    simp only [Stage.start, Stage.request, Store.perform, Store.steps, Store.step, Store.sets_setSet, Store.sets_setList, if_true]
    exact (Store.perm_insertMember _ _).mem_iff.2 List.mem_cons_self
  untold j c s hj := by
    rw [act, goOn_clients] at hj
    split at hj
    · -- the operation is over with this request
      have hdone : (Stage.start (.retry d wait)).receive (w.store.perform ((Stage.start (.retry d wait)).request keys now)).2 =
          .finished (.ok ()) := receive_rescheduling _ _ _
      rw [hdone] at hj
      cases hj
    · exact untold j c s hj

end World

/-- **A task that is put aside is due when its wait is over, unless that is beyond the range of 64 bits; then it is due
at once.** A time up to 2^53 is kept as it is; a later one is rounded to a double, which may be sooner by 512 milliseconds.
No wait leads as far as that if the longest one that is configured is short enough, whatever is drawn. Until it is due, the
task stays put aside whatever all clients do, unless the same text is put aside again. Beyond the range, the next one who
asks what is due is told of it, unless there is more than is told at once. -/
theorem retry_due (start : String) (settings : WorkerSettings) (draw : Binary64 → Binary64 → Binary64)
    (attempt i : Nat) (w : World) (d : Delivery) (now : Moment) (hnow : now.Sound)
    (ranked : Ranked (w.store.sets (RedisKeys.startingWith start).scheduled))
    (untold : ∀ j c (s : Stage c), w.clients j = .busy c s → d.task.next.encode ∉ s.inHand) :
    let keys := RedisKeys.startingWith start
    let wait := settings.consumer.backoff.delay draw attempt
    let due := Redis.asDouble (dueTime now wait)
    let next := d.task.next.encode
    let after := w.act keys now i (Stage.start (.retry d wait))
    (due, next) ∈ after.store.sets keys.scheduled ∧
      (now.unixMillis + wait ≤ due ↔
        now.unixMillis + wait < 2 ^ 63 ∧ now.unixMillis + wait ≤ Redis.asDouble (now.unixMillis + wait)) ∧
      (settings.backoffMaximumMillis ≤ 2 ^ 48 → Backoff.DrawsBelow draw → now.unixMillis + wait ≤ 2 ^ 53) ∧
      (settings.backoffMaximumMillis ≤ 2 ^ 61 → Backoff.DrawsBelow draw → now.unixMillis + wait < 2 ^ 63) ∧
      (now.unixMillis + wait ≤ 2 ^ 53 → due = now.unixMillis + wait) ∧
      (now.unixMillis + wait < 2 ^ 63 → due ≤ now.unixMillis + wait + 512 ∧ now.unixMillis + wait ≤ due + 512 ∧
        ∀ w', Relation.ReflTransGen (World.EarlyStep keys due next) after w' →
          (due, next) ∈ w'.store.sets keys.scheduled) ∧
      (2 ^ 63 ≤ now.unixMillis + wait → due < now.unixMillis ∧
        ∀ later ripe rest, now.unixMillis ≤ later → Ripe later (after.store.sets keys.scheduled) ripe rest →
          (due, next) ∈ ripe ∨ ripe.length = promotionLimit) := by
  intro keys wait due next after
  have hwaits : World.Waits keys due next after := World.waits_act_retry ranked untold
  obtain ⟨hlow, hhigh⟩ := hnow.unixMillis_bounds
  have hwait : wait ≤ 2 ^ 64 - 1 := Backoff.delay_le_limit _ _ _
  have hatleast : Number.Binary64.AtLeast 1 settings.consumer.backoff.multiplier :=
    Number.Binary64.atLeast_ofNat two_pos
  refine ⟨hwaits.scheduled, le_asDouble_dueTime_iff hnow (by omega), fun hmax hdraw => ?_, fun hmax hdraw => ?_,
    asDouble_dueTime hnow, fun hrange => ?_, fun hbeyond => ?_⟩
  · have hshort : wait ≤ 2 ^ 49 := Backoff.delay_le (by decide) hmax rfl hatleast hdraw
    omega
  · have hshort : wait ≤ 2 ^ 62 := Backoff.delay_le (by decide) hmax rfl hatleast hdraw
    omega
  · have hsent : dueTime now wait = now.unixMillis + wait := dueTime_eq (by omega) hrange
    obtain ⟨hnear, hnear'⟩ := Redis.asDouble_near (n := dueTime now wait) (by omega)
    exact ⟨hsent ▸ hnear, hsent ▸ hnear', fun w' h => (hwaits.steps h).scheduled⟩
  · have hdue : due < now.unixMillis := asDouble_dueTime_lt hnow (by omega) hbeyond
    refine ⟨hdue, fun later ripe rest hlater hripe => ?_⟩
    have hmem := hwaits.scheduled
    rw [hripe.split, List.mem_append] at hmem
    refine hmem.imp_right fun hrest => ?_
    by_contra hfew
    have hlate := hripe.all (lt_of_le_of_ne hripe.few hfew) _ hrest
    omega

/-- The least draw. -/
def least (lo _ : Binary64) : Binary64 := lo

theorem drawsBelow_least : Backoff.DrawsBelow least := fun _ _ h => h

theorem epoch_sound : Moment.epoch.Sound := ⟨by decide, by decide, .inl (by decide)⟩

/-- The first wait is a second, less a tenth of it. -/
theorem sample_retry_due :
    let keys := RedisKeys.startingWith "q"
    let next := World.sampleTask.next.encode
    let d : Delivery := ⟨World.sampleTask, World.sampleTask.encode⟩
    ∀ w', Relation.ReflTransGen (World.EarlyStep keys 900 next) (({} : World).act keys .epoch 0 (Stage.start (.retry d 900))) w' →
      (900, next) ∈ w'.store.sets keys.scheduled := by
  intro keys next d
  have hwait : ({} : WorkerSettings).consumer.backoff.delay least 1 = 900 := by decide +kernel
  have hdue : Redis.asDouble (dueTime Moment.epoch 900) = 900 := asDouble_dueTime epoch_sound (by decide)
  obtain ⟨-, -, -, -, -, hstays, -⟩ := retry_due "q" {} least 1 0 {} d .epoch epoch_sound ⟨.nil, .nil⟩ nofun
  obtain ⟨-, -, h⟩ := hstays (by rw [hwait]; decide)
  rw [hwait, hdue] at h
  exact h

/-- With the longest wait there is, a task is due before it is put aside. -/
theorem not_always_due_later :
    ¬ ∀ (settings : WorkerSettings) (draw : Binary64 → Binary64 → Binary64) (attempt : Nat) (now : Moment), now.Sound →
      Backoff.DrawsBelow draw →
        now.unixMillis + settings.consumer.backoff.delay draw attempt ≤
          Redis.asDouble (dueTime now (settings.consumer.backoff.delay draw attempt)) := by
  intro h
  have hdue := h { backoffInitialMillis := 2 ^ 64 - 1, backoffMaximumMillis := 2 ^ 64 - 1 } least 1 .epoch epoch_sound
    drawsBelow_least
  have hwait := Backoff.delay_le_limit
    ({ backoffInitialMillis := 2 ^ 64 - 1, backoffMaximumMillis := 2 ^ 64 - 1 } : WorkerSettings).consumer.backoff least 1
  rw [Backoff.limit] at hwait
  rw [le_asDouble_dueTime_iff epoch_sound (by omega)] at hdue
  exact absurd hdue.1 (by decide +kernel)

end Courier.RedisQueue
