import Courier.Proofs.Redis.Clients
/-
Clients that share a queue on a Redis server, while the server does whatever it is
asked. Beside the store and the clients there are two more places for a task: it was
acknowledged, or a client took it out of the set and has not put it back yet.

A delivery is unsettled from the moment a client has it until the request that
settles it is done. Nobody begins to settle a delivery that is settled, or that
somebody else is about to settle; who settles it need not be who got it.

What the clients are about is kept apart here from what the store holds: two clients
never add the same task, and never settle the same delivery (`Orderly`).
-/

namespace Courier.RedisQueue

open Calendar (Moment)
open Redis (Store)

/-! ## What clients are about -/

namespace Stage

variable {c : QueueCall}

/-- The task that the next request puts on the queue. -/
def adding? : Stage c → Option Task
  | adding t => some t
  | listing | claiming _ _ | promoting _ _ | taking | burying _ _ | releasing _ | rescheduling _ _ | abandoning _ _
  | recovering _ | counting => none

/-- The delivery that the next request settles, to whatever end. -/
def settling? : Stage c → Option Delivery
  | releasing d | rescheduling d _ | abandoning d _ => some d
  | adding _ | listing | claiming _ _ | promoting _ _ | taking | burying _ _ | recovering _ | counting => none

/-- The task that the next request acknowledges. -/
def acknowledging? : Stage c → Option Task
  | releasing d => some d.task
  | adding _ | listing | claiming _ _ | promoting _ _ | taking | burying _ _ | rescheduling _ _ | abandoning _ _
  | recovering _ | counting => none

/-- Whether a stage is one of putting tasks on the queue, taking them, or settling them,
with every entry a task. -/
def Usual : Stage c → Prop
  | adding _ | listing | claiming _ _ | promoting _ _ | taking | releasing _ | rescheduling _ _ | abandoning _ _ => True
  | burying _ _ | recovering _ | counting => False

/-- The delivery that an operation ends with. -/
def Next.delivery? : {c : QueueCall} → Next c → Option Delivery
  | .dequeue, .finished (.ok (some d)) => some d
  | _, _ => none

end Stage

namespace Client

def adding? : Client → Option Task
  | busy _ s => s.adding?
  | idle | stopped => none

def settling? : Client → Option Delivery
  | busy _ s => s.settling?
  | idle | stopped => none

def Usual : Client → Prop
  | busy _ s => s.Usual
  | idle | stopped => True

/-- Whether a client neither adds a task nor settles a delivery. -/
structure Free (x : Client) : Prop where
  usual : x.Usual
  adding : x.adding? = none
  settling : x.settling? = none

theorem free_idle : Free idle := ⟨trivial, rfl, rfl⟩

theorem free_promote (rest : List String) : Free (busy .dequeue (Stage.promote rest)) := by
  cases rest with
  | nil => exact ⟨trivial, rfl, rfl⟩
  | cons raw rest => exact ⟨trivial, rfl, rfl⟩

end Client

/-! ## Clients at one queue -/

structure Custody where
  world : World := {}
  /-- The deliveries that were handed out and are not settled, each with the client that got it. -/
  unsettled : List (Nat × Delivery) := []
  acknowledged : List Task := []

namespace Custody

/-- A client makes its next request, and the server does it. -/
def act (keys : RedisKeys) (clock : Moment) (w : Custody) (i : Nat) {c : QueueCall} (s : Stage c) : Custody where
  world := w.world.act keys clock i s
  unsettled :=
    ((s.receive (w.world.store.perform (s.request keys clock)).2).delivery?.map fun d => (i, d)).toList ++
      w.unsettled.eraseP fun a => s.settling? = some a.2
  acknowledged := s.acknowledging?.toList ++ w.acknowledged

/-- Whether a delivery is unsettled, and nobody is about to settle it. -/
def Open (w : Custody) (d : Delivery) : Prop :=
  (∃ k, (k, d) ∈ w.unsettled) ∧ ∀ i, (w.world.clients i).settling? ≠ some d

/-- What a client may ask. The tasks that are put on the queue are distinct. -/
def May (w : Custody) : QueueCall → Prop
  | .enqueue t => t.Sound ∧ (∀ u ∈ w.world.enqueued, u.id ≠ t.id) ∧
      ∀ i u, (w.world.clients i).adding? = some u → u.id ≠ t.id
  | .dequeue => True
  | .ack d | .retry d _ | .deadLetter d _ => w.Open d
  | .recover | .stats => False

inductive Step (keys : RedisKeys) (w : Custody) : Custody → Prop
  | start {i : Nat} {c : QueueCall} (idle : w.world.clients i = .idle) (may : w.May c) :
    Step keys w { w with world := w.world.setClient i (.busy c (Stage.start c)) }
  | act {i : Nat} {c : QueueCall} {s : Stage c} (busy : w.world.clients i = .busy c s) {clock : Moment}
    (hclock : clock.Sound) : Step keys w (w.act keys clock i s)

/-- Whether a store holds nothing for a queue. -/
structure Empty (keys : RedisKeys) (s : Store) : Prop where
  pending : s.lists keys.pending = []
  processing : s.lists keys.processing = []
  scheduled : s.sets keys.scheduled = []
  dead : s.lists keys.dead = []

/-- What is reached from a queue with nothing in it. -/
inductive Reachable (keys : RedisKeys) : Custody → Prop
  | start {store : Store} (empty : Empty keys store) : Reachable keys { world := { store } }
  | step {w w' : Custody} (h : Reachable keys w) (hstep : Step keys w w') : Reachable keys w'

/-! ## Where a task is -/

/-- The places for tasks. -/
inductive Shelf
  | pending | processing | scheduled | dead | acknowledged
  /-- With a client that took it out of the set and has not put it back; places here are numbers of clients. -/
  | hands
  deriving DecidableEq, Repr

/-- The task that an entry is read as. -/
def read? (entry : String) : Option Task := (Task.decode entry).toOption

/-- The task of a dead letter. -/
def readLetter? (entry : String) : Option Task := (DeadLetter.decode entry).toOption.map (·.task)

/-- The task at a place. -/
def at? (keys : RedisKeys) (w : Custody) : Shelf → Nat → Option Task
  | .pending, n => (w.world.store.lists keys.pending)[n]?.bind read?
  | .processing, n => (w.world.store.lists keys.processing)[n]?.bind read?
  | .scheduled, n => (w.world.store.members keys.scheduled)[n]?.bind read?
  | .dead, n => (w.world.store.lists keys.dead)[n]?.bind readLetter?
  | .acknowledged, n => w.acknowledged[n]?
  | .hands, i => (w.world.clients i).holds?.bind read?

/-! ## Clients do not get in each other's way -/

section

variable {α β : Type} {clients : Nat → Client} {f : Client → Option α} {key : α → β}

/-- Whether no two clients are about the same thing. -/
def Unshared (clients : Nat → Client) (f : Client → Option α) (key : α → β) : Prop :=
  ∀ i j a b, f (clients i) = some a → f (clients j) = some b → key a = key b → i = j

theorem Unshared.set (h : Unshared clients f key) {i : Nat} {x : Client}
    (hx : ∀ a, f x = some a → ∀ j b, f (clients j) = some b → key b ≠ key a) :
    Unshared (fun j => if j = i then x else clients j) f key := by
  intro j k a b ha hb he
  dsimp only at ha hb
  by_cases hj : j = i <;> by_cases hk : k = i
  · rw [hj, hk]
  · rw [if_pos hj] at ha
    rw [if_neg hk] at hb
    exact absurd he.symm (hx a ha k b hb)
  · rw [if_neg hj] at ha
    rw [if_pos hk] at hb
    exact absurd he (hx b hb j a ha)
  · rw [if_neg hj] at ha
    rw [if_neg hk] at hb
    exact h j k a b ha hb he

end

structure Orderly (w : Custody) : Prop where
  usual : ∀ i, (w.world.clients i).Usual
  adding : ∀ i t, (w.world.clients i).adding? = some t → t.Sound ∧ ∀ u ∈ w.world.enqueued, u.id ≠ t.id
  alone : Unshared w.world.clients Client.adding? (·.id)
  settling : ∀ i d, (w.world.clients i).settling? = some d → ∃ k, (k, d) ∈ w.unsettled
  once : Unshared w.world.clients Client.settling? id

variable {w w' : Custody} {i : Nat} {x : Client}

/-- A client is done with what it was about. -/
theorem Orderly.turn (h : Orderly w) (hx : x.Free)
    (hclients : w'.world.clients = fun j => if j = i then x else w.world.clients j)
    (henqueued : ∀ u ∈ w'.world.enqueued, u ∈ w.world.enqueued ∨ (w.world.clients i).adding? = some u)
    (hunsettled : ∀ a ∈ w.unsettled, a ∈ w'.unsettled ∨ (w.world.clients i).settling? = some a.2) : Orderly w' := by
  have halone : Unshared w'.world.clients Client.adding? (·.id) := by
    rw [hclients]
    exact h.alone.set fun t ht => by rw [hx.adding] at ht; cases ht
  have honce : Unshared w'.world.clients Client.settling? id := by
    rw [hclients]
    exact h.once.set fun d hd => by rw [hx.settling] at hd; cases hd
  refine ⟨fun j => ?_, fun j t ht => ?_, halone, fun j d hd => ?_, honce⟩
  · rw [hclients]
    dsimp only
    split
    · exact hx.usual
    · exact h.usual j
  · rw [hclients] at ht
    dsimp only at ht
    split at ht
    · rw [hx.adding] at ht
      cases ht
    next hj =>
    refine ⟨(h.adding j t ht).1, fun u hu he => ?_⟩
    rcases henqueued u hu with hu | hu
    · exact (h.adding j t ht).2 u hu he
    · exact hj (h.alone j i t u ht hu he.symm)
  · rw [hclients] at hd
    dsimp only at hd
    split at hd
    · rw [hx.settling] at hd
      cases hd
    next hj =>
    obtain ⟨k, hk⟩ := h.settling j d hd
    rcases hunsettled _ hk with hk | hk
    · exact ⟨k, hk⟩
    · exact absurd (h.once j i d d hd hk rfl) hj

/-- What a client begins is nothing that another one is about. -/
theorem May.begins {c : QueueCall} (hmay : w.May c) :
    (Stage.start c).Usual ∧
      (∀ t, (Stage.start c).adding? = some t → t.Sound ∧ (∀ u ∈ w.world.enqueued, u.id ≠ t.id) ∧
        ∀ i u, (w.world.clients i).adding? = some u → u.id ≠ t.id) ∧
      ∀ d, (Stage.start c).settling? = some d → w.Open d := by
  cases c with
  | enqueue t =>
    refine ⟨trivial, fun u hu => ?_, fun d hd => by cases hd⟩
    cases hu
    exact hmay
  | dequeue => exact ⟨trivial, fun t ht => (by cases ht), fun d hd => by cases hd⟩
  | ack d | retry d _ | deadLetter d _ =>
    refine ⟨trivial, fun t ht => (by cases ht), fun d' hd => ?_⟩
    cases hd
    exact hmay
  | recover | stats => exact hmay.elim

theorem Orderly.start (h : Orderly w) {c : QueueCall} (hmay : w.May c) :
    Orderly { w with world := w.world.setClient i (.busy c (Stage.start c)) } := by
  obtain ⟨husual, hadding, hsettling⟩ := hmay.begins
  have halone := h.alone.set (i := i) (x := .busy c (Stage.start c)) fun t ht j u hu => (hadding t ht).2.2 j u hu
  have honce := h.once.set (i := i) (x := .busy c (Stage.start c)) fun d hd j d' hd' he => by
    obtain rfl : d' = d := he
    exact (hsettling d' hd).2 j hd'
  refine ⟨fun j => ?_, fun j t ht => ?_, halone, fun j d hd => ?_, honce⟩
  · by_cases hj : j = i
    · simp only [World.setClient, if_pos hj]
      exact husual
    · simp only [World.setClient, if_neg hj]
      exact h.usual j
  · by_cases hj : j = i
    · simp only [World.setClient, if_pos hj] at ht
      exact ⟨(hadding t ht).1, (hadding t ht).2.1⟩
    · simp only [World.setClient, if_neg hj] at ht
      exact h.adding j t ht
  · by_cases hj : j = i
    · simp only [World.setClient, if_pos hj] at hd
      exact (hsettling d hd).1
    · simp only [World.setClient, if_neg hj] at hd
      exact h.settling j d hd

end Custody
end Courier.RedisQueue
