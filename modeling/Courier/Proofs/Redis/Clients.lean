import Courier.Proofs.Queue.Task
import Courier.Proofs.Redis.Holding
/-
Any number of clients at one queue on a Redis server. A request is one step of
the server; between any two requests of a client all others may do anything, the
server may refuse a request with an error, and a client may stop for good. The
clock is whatever it is at each request.

What the clients were told is noted beside the store: which tasks they were told
are on the queue, which deliveries were handed out to them, and which tasks they
asked to be settled.
-/

namespace Courier.RedisQueue

open Calendar (Moment)
open Redis (Store)

/-- What a client is doing. -/
inductive Client
  | idle
  | busy (c : QueueCall) (s : Stage c)
  | stopped

/-- The text that a stage has taken out of the set and has not put back yet. -/
def Stage.holds? {c : QueueCall} : Stage c → Option String
  | promoting raw _ => some raw
  | adding _ | claiming _ _ | burying _ _ | releasing _ | rescheduling _ _ | abandoning _ _ | listing | taking
  | recovering _ | counting => none

/-- The text that a stage is about to take out of the set. -/
def Stage.claims? {c : QueueCall} : Stage c → Option String
  | claiming raw _ => some raw
  | adding _ | promoting _ _ | burying _ _ | releasing _ | rescheduling _ _ | abandoning _ _ | listing | taking
  | recovering _ | counting => none

/-- The task that the next request settles: done, or given up. -/
def Stage.settles? {c : QueueCall} : Stage c → Option Task
  | releasing d | abandoning d _ => some d.task
  | adding _ | claiming _ _ | promoting _ _ | burying _ _ | rescheduling _ _ | listing | taking | recovering _
  | counting => none

def Client.holds? : Client → Option String
  | busy _ s => s.holds?
  | idle | stopped => none

/-- What a client does after a reply. -/
def Stage.Next.client {c : QueueCall} : Stage.Next c → Client
  | .stage s => .busy c s
  | .finished _ => .idle

structure World where
  store : Store := {}
  clients : Nat → Client := fun _ => .idle
  /-- The tasks that a client was told are on the queue. -/
  enqueued : List Task := []
  delivered : List Delivery := []
  /-- The tasks that were taken off the queue as done, or given up. -/
  settled : List Task := []
  /-- The texts that a client had taken out of the set and never put back. -/
  dropped : List String := []

namespace World

def setClient (w : World) (i : Nat) (x : Client) : World :=
  { w with clients := fun j => if j = i then x else w.clients j }

/-- Notes what a client was told. -/
def note (w : World) : (c : QueueCall) → c.Answer → World
  | .enqueue t, .ok _ => { w with enqueued := t :: w.enqueued }
  | .dequeue, .ok (some d) => { w with delivered := d :: w.delivered }
  | _, _ => w

/-- A client goes on after a reply. -/
def goOn (w : World) (i : Nat) {c : QueueCall} : Stage.Next c → World
  | .stage s => w.setClient i (.busy c s)
  | .finished a => (w.note c a).setClient i .idle

/-- A client makes its next request, and the server does it. -/
def act (keys : RedisKeys) (clock : Moment) (w : World) (i : Nat) {c : QueueCall} (s : Stage c) : World :=
  let r := w.store.perform (s.request keys clock)
  { w with store := r.1, settled := s.settles?.toList ++ w.settled }.goOn i (s.receive r.2)

/-- A client makes its next request, and the server answers with an error. -/
def refuse (w : World) (i : Nat) {c : QueueCall} (s : Stage c) (error : String) : World :=
  { w with dropped := s.holds?.toList ++ w.dropped }.goOn i (s.receive (.failed error))

/-- A client stops for good. -/
def stop (w : World) (i : Nat) : World :=
  { w with dropped := (w.clients i).holds?.toList ++ w.dropped }.setClient i .stopped

/-- What a client may ask: a delivery that is to be settled was handed out before. -/
def May (w : World) : QueueCall → Prop
  | .enqueue t => t.Sound
  | .ack d | .retry d _ | .deadLetter d _ => d ∈ w.delivered
  | .dequeue | .recover | .stats => True

/-- One step of one client. -/
inductive Step (keys : RedisKeys) (w : World) : World → Prop
  | start {i : Nat} {c : QueueCall} (idle : w.clients i = .idle) (may : w.May c) :
    Step keys w (w.setClient i (.busy c (Stage.start c)))
  | act {i : Nat} {c : QueueCall} {s : Stage c} (busy : w.clients i = .busy c s) (clock : Moment) :
    Step keys w (w.act keys clock i s)
  | refuse {i : Nat} {c : QueueCall} {s : Stage c} (busy : w.clients i = .busy c s) (error : String) :
    Step keys w (w.refuse i s error)
  | stop (i : Nat) : Step keys w (w.stop i)

/-- Nobody has done anything yet. What the store holds is left open; the members
of a set are distinct, as on every server. -/
structure Initial (keys : RedisKeys) (w : World) : Prop where
  idle : ∀ i, w.clients i = .idle
  distinct : (w.store.members keys.scheduled).Nodup
  enqueued : w.enqueued = []
  delivered : w.delivered = []
  settled : w.settled = []
  dropped : w.dropped = []

/-- What happened from the start on, the latest first. -/
inductive Course (keys : RedisKeys) : List World → Prop
  | start {w : World} (h : w.Initial keys) : Course keys [w]
  | step {w w' : World} {ws : List World} (h : Course keys (w :: ws)) (hstep : Step keys w w') :
    Course keys (w' :: w :: ws)

/-! ## What was promised of a task -/

/-- A text of a task, tried however often. -/
def Copy (t : Task) (x : String) : Prop := ∃ n < 2 ^ 32, x = (t.withAttempts n).encode

/-- The task was done, or given up. -/
def Settled (w : World) (t : Task) : Prop := ∃ n, t.withAttempts n ∈ w.settled

/-- The task is waiting, in flight, or put aside. -/
def Stores (keys : RedisKeys) (w : World) (t : Task) : Prop := ∃ x, Copy t x ∧ Holds keys w.store x

/-- Every task on the queue that was not settled is stored. -/
def Keeps (keys : RedisKeys) (w : World) : Prop := ∀ t ∈ w.enqueued, ¬ w.Settled t → w.Stores keys t

/-! ## What changes when a client goes on -/

section

variable {w : World} {i : Nat} {c : QueueCall}

theorem note_store (a : c.Answer) : (w.note c a).store = w.store ∧ (w.note c a).clients = w.clients ∧
    (w.note c a).settled = w.settled ∧ (w.note c a).dropped = w.dropped := by
  unfold note
  split <;> exact ⟨rfl, rfl, rfl, rfl⟩

@[simp] theorem goOn_store (next : Stage.Next c) : (w.goOn i next).store = w.store := by
  cases next with
  | stage s => rfl
  | finished a => exact (note_store a).1

@[simp] theorem goOn_settled (next : Stage.Next c) : (w.goOn i next).settled = w.settled := by
  cases next with
  | stage s => rfl
  | finished a => exact (note_store a).2.2.1

@[simp] theorem goOn_dropped (next : Stage.Next c) : (w.goOn i next).dropped = w.dropped := by
  cases next with
  | stage s => rfl
  | finished a => exact (note_store a).2.2.2

theorem goOn_clients (next : Stage.Next c) (j : Nat) :
    (w.goOn i next).clients j = if j = i then next.client else w.clients j := by
  cases next with
  | stage s => rfl
  | finished a => simp only [goOn, setClient, Stage.Next.client, (note_store a).2.1]

theorem mem_enqueued_goOn {next : Stage.Next c} {t : Task} (h : t ∈ (w.goOn i next).enqueued) :
    t ∈ w.enqueued ∨ c = .enqueue t := by
  cases next with
  | stage s => exact .inl h
  | finished a =>
    simp only [goOn, setClient, note] at h
    split at h
    · rcases List.mem_cons.1 h with rfl | h
      · exact .inr rfl
      · exact .inl h
    · exact .inl h
    · exact .inl h

theorem mem_delivered_goOn {next : Stage.Next c} {d : Delivery} (h : d ∈ (w.goOn i next).delivered) :
    d ∈ w.delivered ∨ ∃ hc : c = .dequeue, hc ▸ next = .finished (.ok (some d)) := by
  cases next with
  | stage s => exact .inl h
  | finished a =>
    simp only [goOn, setClient, note] at h
    split at h
    · exact .inl h
    · rcases List.mem_cons.1 h with rfl | h
      · exact .inr ⟨rfl, rfl⟩
      · exact .inl h
    · exact .inl h

theorem enqueued_subset_goOn (next : Stage.Next c) : w.enqueued ⊆ (w.goOn i next).enqueued := by
  cases next with
  | stage s => exact fun _ h => h
  | finished a =>
    simp only [goOn, setClient, note]
    split
    · exact fun _ h => List.mem_cons_of_mem _ h
    · exact fun _ h => h
    · exact fun _ h => h

theorem delivered_subset_goOn (next : Stage.Next c) : w.delivered ⊆ (w.goOn i next).delivered := by
  cases next with
  | stage s => exact fun _ h => h
  | finished a =>
    simp only [goOn, setClient, note]
    split
    · exact fun _ h => h
    · exact fun _ h => List.mem_cons_of_mem _ h
    · exact fun _ h => h

end

end World
end Courier.RedisQueue
