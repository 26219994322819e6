import Mathlib.Data.List.Chain
import Courier.Proofs.Outcome
import Courier.Proofs.Redis.Loss
/-
Which tasks a queue on a Redis server can lose when clients stop or are refused
between two requests.

Every request but one keeps what it takes away: it is a single command or a block
that puts the text, or the text of the next attempt, somewhere else. The one
exception is the way back of a task that is due. A client takes it out of the set
with one request and puts it in front of the waiting ones with the next, and in
between nobody but that client has it. If the client stops there, the task is
gone; `recover` looks through the list of tasks in flight, where it is not.

The invariant: a task that was not settled is stored, or a client took a text of
it out of the set and has not put it back.
-/

namespace Courier.RedisQueue

open Calendar (Moment)
open Redis (Store Reply)

/-! ## Replies -/

namespace Stage

variable {c : QueueCall}

/-- An error ends every operation. -/
theorem receive_failed (s : Stage c) (text : String) :
    s.receive (.failed text) = .finished (.error (.redis (.reported text))) := by
  simp [receive, Reply.checked, Reply.error?, Except.bind]

/-- Whether a stage deals with deliveries and entries as it should: a delivery was
handed out, and an entry that is given up is no task. -/
def Rightful (delivered : List Delivery) : Stage c → Prop
  | adding t => t.Sound
  | releasing d | rescheduling d _ | abandoning d _ => d ∈ delivered
  | burying raw _ => ∀ t, Task.decode raw ≠ .ok t
  | listing | claiming _ _ | promoting _ _ | taking | recovering _ | counting => True

theorem Rightful.mono {s : Stage c} {delivered delivered' : List Delivery} (hsub : delivered ⊆ delivered')
    (h : s.Rightful delivered) : s.Rightful delivered' := by
  cases s with
  | releasing _ | rescheduling _ _ | abandoning _ _ => exact hsub h
  | adding _ | burying _ _ | listing | claiming _ _ | promoting _ _ | taking | recovering _ | counting => exact h

theorem rightful_promote (delivered : List Delivery) (rest : List String) : (promote rest).Rightful delivered := by
  cases rest <;> trivial

/-- An operation goes on only after a reply that can be taken. -/
theorem checked_of_receive {s : Stage c} {r : Reply} {next : Next c} (h : s.receive r = next)
    (hnext : ∀ e, next ≠ .finished (.error e)) : ∃ r', receiveChecked r' s = .ok next := by
  subst h
  unfold receive at hnext ⊢
  cases hr : r.checked with
  | error e =>
    rw [hr] at hnext
    exact absurd rfl (hnext _)
  | ok r' =>
    rw [hr] at hnext
    simp only [Except.bind] at hnext ⊢
    cases hs : receiveChecked r' s with
    | error e =>
      rw [hs] at hnext
      exact absurd rfl (hnext _)
    | ok next => exact ⟨r', hs⟩

theorem taken_stage {raw : String} {s : Stage .dequeue} (h : taken raw = .stage s) (delivered : List Delivery) :
    s.Rightful delivered := by
  unfold taken at h
  split at h
  · simp at h
  · next e he =>
    simp only [Next.stage.injEq] at h
    subst h
    intro t ht
    simp [ht] at he

theorem taken_finished {raw : String} {d : Delivery} (h : taken raw = .finished (.ok (some d))) :
    Task.decode d.receipt = .ok d.task := by
  unfold taken at h
  split at h
  · next t ht =>
    cases h
    exact ht
  · cases h

/-- What follows a reply is rightful. -/
theorem receive_stage {s s' : Stage c} {r : Reply} (h : s.receive r = .stage s') (delivered : List Delivery) :
    s'.Rightful delivered := by
  obtain ⟨r', hr⟩ := checked_of_receive h nofun
  cases s with
  | adding _ | releasing _ => simp [receiveChecked, closed] at hr
  | listing =>
    obtain ⟨due, -, hs⟩ := ok_of_map hr
    cases hs
    exact rightful_promote delivered due
  | claiming raw rest =>
    obtain ⟨n, -, hs⟩ := ok_of_map hr
    split at hs
    · cases hs; trivial
    · cases hs; exact rightful_promote delivered rest
  | promoting raw rest =>
    cases hr
    exact rightful_promote delivered rest
  | taking =>
    obtain ⟨found, -, hs⟩ := ok_of_map hr
    cases found with
    | some raw => exact taken_stage hs delivered
    | none => cases hs
  | burying raw reason =>
    obtain ⟨_, -, hs⟩ := ok_of_map hr
    cases hs
    trivial
  | rescheduling _ _ | abandoning _ _ | counting =>
    obtain ⟨_, -, hs⟩ := ok_of_map hr
    cases hs
  | recovering n =>
    obtain ⟨found, -, hs⟩ := ok_of_map hr
    cases found with
    | some _ => cases hs; trivial
    | none => cases hs

/-- A delivery that was handed out is the task that its receipt is the text of. -/
theorem receive_delivery {s : Stage .dequeue} {r : Reply} {d : Delivery}
    (h : s.receive r = .finished (.ok (some d))) : Task.decode d.receipt = .ok d.task := by
  obtain ⟨r', hr⟩ := checked_of_receive h nofun
  cases s with
  | listing | burying _ _ =>
    obtain ⟨_, -, hs⟩ := ok_of_map hr
    cases hs
  | claiming raw rest =>
    obtain ⟨n, -, hs⟩ := ok_of_map hr
    split at hs <;> cases hs
  | promoting raw rest => cases hr
  | taking =>
    obtain ⟨found, -, hs⟩ := ok_of_map hr
    cases found with
    | some raw => exact taken_finished hs
    | none => cases hs

end Stage

namespace World

/-! ## The invariant -/

/-- A client took a text of the task out of the set and has not put it back: it is
about to, or it never will. -/
def Adrift (w : World) (t : Task) : Prop :=
  ∃ x, Copy t x ∧ (x ∈ w.dropped ∨ ∃ i, (w.clients i).holds? = some x)

structure Invariant (keys : RedisKeys) (w : World) : Prop where
  distinct : (w.store.members keys.scheduled).Nodup
  sound : ∀ t ∈ w.enqueued, t.Sound
  genuine : ∀ d ∈ w.delivered, Task.decode d.receipt = .ok d.task
  rightful : ∀ i c (s : Stage c), w.clients i = .busy c s → s.Rightful w.delivered
  kept : ∀ t ∈ w.enqueued, w.Settled t ∨ w.Stores keys t ∨ w.Adrift t

theorem Initial.invariant {keys : RedisKeys} {w : World} (h : w.Initial keys) : Invariant keys w where
  distinct := h.distinct
  sound t ht := by rw [h.enqueued] at ht; cases ht
  genuine d hd := by rw [h.delivered] at hd; cases hd
  rightful i c s hs := by rw [h.idle] at hs; cases hs
  kept t ht := by rw [h.enqueued] at ht; cases ht

theorem Copy.decode {t : Task} {x : String} (ht : t.Sound) (h : Copy t x) :
    ∃ n < 2 ^ 32, Task.decode x = .ok (t.withAttempts n) := by
  obtain ⟨n, hn, rfl⟩ := h
  exact ⟨n, hn, Task.decode_encode (ht.withAttempts hn)⟩

/-- The text of the next attempt is a text of the same task. -/
theorem Copy.next {t u : Task} {x : String} (ht : t.Sound) (h : Copy t x) (hu : Task.decode x = .ok u) :
    Copy t u.next.encode := by
  obtain ⟨n, hn, hd⟩ := h.decode ht
  rw [hd] at hu
  cases hu
  exact ⟨(n + 1) % 2 ^ 32, Nat.mod_lt _ (by omega), rfl⟩

theorem copy_self {t : Task} (ht : t.Sound) : Copy t t.encode := ⟨t.attempts, ht.attempts, rfl⟩

section

variable {keys : RedisKeys} {w : World} {i : Nat} {c : QueueCall} {s : Stage c} {t : Task} {x : String}

/-- The task that a client was told is on the queue is there. -/
theorem act_enqueued (h : Invariant keys w) (busy : w.clients i = .busy c s) (clock : Moment) (hc : c = .enqueue t) :
    t.Sound ∧ (w.act keys clock i s).Stores keys t := by
  subst hc
  cases s with
  | adding t =>
    have ht : t.Sound := h.rightful i _ _ busy
    refine ⟨ht, t.encode, copy_self ht, ?_⟩
    rw [act, goOn_store]
    exact Stage.holds_of_puts _ clock rfl

/-- A request that takes a text of a task away settles the task, or puts the text
of the next attempt in — or takes the text out of the set. -/
theorem act_stores (hk : keys.Apart) (h : Invariant keys w) (busy : w.clients i = .busy c s) (clock : Moment)
    (ht : t ∈ w.enqueued) (hx : Copy t x) (hholds : Holds keys w.store x) :
    (w.act keys clock i s).Settled t ∨ (w.act keys clock i s).Stores keys t ∨ s.claims? = some x := by
  have hsound := h.sound t ht
  have hrightful := h.rightful i c s busy
  by_cases htakes : s.takes? = some x
  · cases s with
    | claiming raw rest => exact .inr (.inr htakes)
    | burying raw reason =>
      obtain rfl := Option.some.inj htakes
      obtain ⟨n, -, hd⟩ := hx.decode hsound
      exact absurd hd (hrightful _)
    | releasing d | abandoning d reason =>
      obtain rfl := Option.some.inj htakes
      obtain ⟨n, -, hd⟩ := hx.decode hsound
      rw [h.genuine d hrightful] at hd
      refine .inl ⟨n, ?_⟩
      rw [act, goOn_settled, ← Except.ok.inj hd]
      exact List.mem_cons_self ..
    | rescheduling d wait =>
      obtain rfl := Option.some.inj htakes
      refine .inr (.inl ⟨_, hx.next hsound (h.genuine d hrightful), ?_⟩)
      rw [act, goOn_store]
      exact Stage.holds_of_puts _ clock rfl
    | adding _ | promoting _ _ | listing | taking | recovering _ | counting => simp [Stage.takes?] at htakes
  · refine .inr (.inl ⟨x, hx, ?_⟩)
    rw [act, goOn_store]
    exact Stage.holds_perform hk s clock hholds htakes

/-- A client that takes a text out of the set holds it; a text that was not there
is held elsewhere. -/
theorem act_claims (h : Invariant keys w) (busy : w.clients i = .busy c s) (clock : Moment) (hx : Copy t x)
    (hholds : Holds keys w.store x) (hclaims : s.claims? = some x) :
    (w.act keys clock i s).Stores keys t ∨ (w.act keys clock i s).Adrift t := by
  cases s with
  | claiming raw rest =>
    obtain rfl := Option.some.inj hclaims
    have hreply : (w.store.perform (Stage.request keys clock (.claiming raw rest))).2 = _ :=
      Store.reply_unscore raw h.distinct
    by_cases hmem : raw ∈ w.store.members keys.scheduled
    · refine .inr ⟨raw, hx, .inr ⟨i, ?_⟩⟩
      rw [act, goOn_clients, if_pos rfl, hreply, if_pos hmem]
      rfl
    · refine .inl ⟨raw, hx, ?_⟩
      rw [act, goOn_store]
      rcases hholds with hp | hp | hp
      · exact .inl hp
      · exact .inr (.inl hp)
      · exact absurd hp hmem
  | adding _ | promoting _ _ | burying _ _ | releasing _ | rescheduling _ _ | abandoning _ _ | listing | taking
  | recovering _ | counting => simp [Stage.claims?] at hclaims

/-- A text that a client holds is put in by its next request. -/
theorem act_adrift (busy : w.clients i = .busy c s) (clock : Moment) (h : w.Adrift t) :
    (w.act keys clock i s).Stores keys t ∨ (w.act keys clock i s).Adrift t := by
  obtain ⟨x, hx, hdropped | ⟨j, hj⟩⟩ := h
  · refine .inr ⟨x, hx, .inl ?_⟩
    rw [act, goOn_dropped]
    exact hdropped
  by_cases hji : j = i
  · subst hji
    rw [busy] at hj
    have hputs : s.puts? = some x := by
      cases s with
      | promoting raw rest => exact hj
      | adding _ | claiming _ _ | burying _ _ | releasing _ | rescheduling _ _ | abandoning _ _ | listing | taking
      | recovering _ | counting => simp [Client.holds?, Stage.holds?] at hj
    refine .inl ⟨x, hx, ?_⟩
    rw [act, goOn_store]
    exact Stage.holds_of_puts s clock hputs
  · refine .inr ⟨x, hx, .inr ⟨j, ?_⟩⟩
    rw [act, goOn_clients, if_neg hji]
    exact hj

theorem Settled.act (h : w.Settled t) (clock : Moment) (i : Nat) (s : Stage c) : (w.act keys clock i s).Settled t := by
  obtain ⟨n, hn⟩ := h
  refine ⟨n, ?_⟩
  rw [World.act, goOn_settled]
  exact List.mem_append_right _ hn

theorem Invariant.act (hk : keys.Apart) (h : Invariant keys w) (busy : w.clients i = .busy c s) (clock : Moment) :
    Invariant keys (w.act keys clock i s) where
  distinct := by
    rw [World.act, goOn_store]
    exact Store.nodup_perform h.distinct _
  sound t ht := by
    rcases mem_enqueued_goOn ht with ht | hc
    · exact h.sound t ht
    · exact (act_enqueued h busy clock hc).1
  genuine d hd := by
    rcases mem_delivered_goOn hd with hd | ⟨rfl, hnext⟩
    · exact h.genuine d hd
    · exact Stage.receive_delivery hnext
  rightful j c' s' hj := by
    rw [World.act, goOn_clients] at hj
    split at hj
    · cases hnext : s.receive (w.store.perform (s.request keys clock)).2 with
      | stage s'' =>
        rw [hnext] at hj
        cases hj
        exact Stage.receive_stage hnext _
      | finished a =>
        rw [hnext] at hj
        cases hj
    · exact (h.rightful j c' s' hj).mono (delivered_subset_goOn _)
  kept t ht := by
    rcases mem_enqueued_goOn ht with ht | hc
    · rcases h.kept t ht with hsettled | ⟨x, hx, hholds⟩ | hadrift
      · exact .inl (hsettled.act clock i s)
      · rcases act_stores hk h busy clock ht hx hholds with hs | hs | hclaims
        · exact .inl hs
        · exact .inr (.inl hs)
        · exact .inr (act_claims h busy clock hx hholds hclaims)
      · exact .inr (act_adrift busy clock hadrift)
    · exact .inr (.inl (act_enqueued h busy clock hc).2)

theorem goOn_finished_error (e : QueueError) :
    w.goOn i (.finished (c := c) (.error e)) = w.setClient i .idle := by
  cases c <;> rfl

/-- What a client holds when it ends an operation too early is dropped, and all
else stays as it was. -/
theorem Invariant.dropping (h : Invariant keys w) {client : Client} (held : List String)
    (hclient : ∀ c (s : Stage c), client = .busy c s → s.Rightful w.delivered)
    (hheld : ∀ x, (w.clients i).holds? = some x → x ∈ held) :
    Invariant keys ({ w with dropped := held ++ w.dropped }.setClient i client) where
  distinct := h.distinct
  sound := h.sound
  genuine := h.genuine
  rightful j c s hj := by
    simp only [setClient] at hj
    split at hj
    · exact hclient c s hj
    · exact h.rightful j c s hj
  kept t ht := by
    rcases h.kept t ht with hsettled | hstores | ⟨x, hx, hdropped | ⟨j, hj⟩⟩
    · exact .inl hsettled
    · exact .inr (.inl hstores)
    · exact .inr (.inr ⟨x, hx, .inl (List.mem_append_right _ hdropped)⟩)
    · by_cases hji : j = i
      · subst hji
        exact .inr (.inr ⟨x, hx, .inl (List.mem_append_left _ (hheld x hj))⟩)
      · refine .inr (.inr ⟨x, hx, .inr ⟨j, ?_⟩⟩)
        simp only [setClient, if_neg hji]
        exact hj

theorem rightful_start {c : QueueCall} (h : w.May c) : (Stage.start c).Rightful w.delivered := by
  cases c <;> exact h

theorem Invariant.step {w' : World} (hk : keys.Apart) (h : Invariant keys w) (hstep : Step keys w w') :
    Invariant keys w' := by
  cases hstep with
  | @start i c idle may =>
    refine h.dropping [] (fun c' s' hs => ?_) fun x hx => ?_
    · cases hs
      exact rightful_start may
    · simp [idle, Client.holds?] at hx
  | @act i c s busy clock => exact h.act hk busy clock
  | @refuse i c s busy error =>
    rw [refuse, Stage.receive_failed, goOn_finished_error]
    refine h.dropping _ (fun c' s' hs => by cases hs) fun x hx => ?_
    rw [busy] at hx
    simp only [Client.holds?] at hx
    simp [hx]
  | stop i =>
    refine h.dropping _ (fun c' s' hs => by cases hs) fun x hx => ?_
    simp [hx]

end

/-! ## Courses of steps -/

/-- The next step takes the last text of a task out of the set of tasks put aside:
no list has one, and the set no other. -/
def TakesLast (keys : RedisKeys) (w w' : World) : Prop :=
  ∃ (i : Nat) (c : QueueCall) (s : Stage c) (clock : Moment) (raw : String),
    w.clients i = .busy c s ∧ s.claims? = some raw ∧ w' = w.act keys clock i s ∧
      ∃ t ∈ w.enqueued, ¬ w.Settled t ∧ Copy t raw ∧ ∀ x, Copy t x →
        x ∉ w.store.lists keys.pending ∧ x ∉ w.store.lists keys.processing ∧
          (x ∈ w.store.members keys.scheduled → x = raw)

section

variable {keys : RedisKeys} {w w' : World} {t : Task}

/-- Taking a text out of the set settles nothing and leaves everything else. -/
theorem act_claiming (w : World) (keys : RedisKeys) (i : Nat) {c : QueueCall} {s : Stage c} {raw : String}
    (hclaims : s.claims? = some raw) (clock : Moment) : (w.act keys clock i s).settled = w.settled ∧
      (w.act keys clock i s).store = (w.store.step (.unscore keys.scheduled raw)).1 := by
  cases s with
  | claiming raw' rest =>
    obtain rfl := Option.some.inj hclaims
    simp only [act, goOn_settled, goOn_store]
    exact ⟨rfl, rfl⟩
  | adding _ | promoting _ _ | burying _ _ | releasing _ | rescheduling _ _ | abandoning _ _ | listing | taking
  | recovering _ | counting => simp [Stage.claims?] at hclaims

theorem not_keeps_of_takesLast (h : TakesLast keys w w') : ¬ w'.Keeps keys := by
  obtain ⟨i, c, s, clock, raw, busy, hclaims, rfl, t, ht, hsettled, -, hlast⟩ := h
  obtain ⟨hs, hstore⟩ := act_claiming w keys i hclaims clock
  intro hkeeps
  have hsettled' : ¬ (w.act keys clock i s).Settled t := by
    simpa only [Settled, hs] using hsettled
  obtain ⟨x, hx, hholds⟩ := hkeeps t (enqueued_subset_goOn _ ht) hsettled'
  obtain ⟨hpending, hprocessing, hset⟩ := hlast x hx
  rw [hstore] at hholds
  rcases hholds with hp | hp | hp
  · exact hpending hp
  · exact hprocessing hp
  · rw [Store.members_unscore, List.mem_filter] at hp
    simp [hset hp.1] at hp

theorem Keeps.act (hk : keys.Apart) (h : Invariant keys w) (hkeeps : w.Keeps keys) {i : Nat} {c : QueueCall}
    {s : Stage c} (busy : w.clients i = .busy c s) (clock : Moment)
    (hlast : ¬ TakesLast keys w (w.act keys clock i s)) : (w.act keys clock i s).Keeps keys := by
  intro t ht hsettled
  rcases mem_enqueued_goOn ht with ht | hc
  · have hold : ¬ w.Settled t := fun hs => hsettled (hs.act clock i s)
    obtain ⟨x, hx, hholds⟩ := hkeeps t ht hold
    rcases act_stores hk h busy clock ht hx hholds with hs | hs | hclaims
    · exact absurd hs hsettled
    · exact hs
    · by_contra hnot
      have hrest : ∀ y, Copy t y → y ∉ w.store.lists keys.pending ∧ y ∉ w.store.lists keys.processing ∧
          (y ∈ w.store.members keys.scheduled → y = x) := by
        obtain ⟨-, hstore⟩ := act_claiming w keys i hclaims clock
        refine fun y hy => ⟨fun hp => hnot ⟨y, hy, ?_⟩, fun hp => hnot ⟨y, hy, ?_⟩, fun hp => ?_⟩
        · rw [hstore]
          exact .inl hp
        · rw [hstore]
          exact .inr (.inl hp)
        · by_contra hne
          refine hnot ⟨y, hy, ?_⟩
          rw [hstore]
          exact Holds.unscore (.inr (.inr hp)) hne
      exact hlast ⟨i, c, s, clock, x, busy, hclaims, rfl, t, ht, hold, hx, hrest⟩
  · exact (act_enqueued h busy clock hc).2

/-- A step that is no request done by the server leaves what is stored, and promises nothing. -/
theorem Keeps.step (hk : keys.Apart) (h : Invariant keys w) (hkeeps : w.Keeps keys) (hstep : Step keys w w')
    (hlast : ¬ TakesLast keys w w') : w'.Keeps keys := by
  cases hstep with
  | start idle may => exact hkeeps
  | act busy clock => exact hkeeps.act hk h busy clock hlast
  | @refuse i c s busy error =>
    rw [refuse, Stage.receive_failed, goOn_finished_error]
    exact hkeeps
  | stop i => exact hkeeps

theorem Course.invariant (hk : keys.Apart) {ws : List World} (h : Course keys ws) : ∀ w ∈ ws, Invariant keys w := by
  induction h with
  | @start w h =>
    intro w' hw'
    rw [List.mem_singleton.1 hw']
    exact h.invariant
  | @step w w' ws _ hstep ih =>
    intro v hv
    rcases List.mem_cons.1 hv with rfl | hv
    · exact (ih w (List.mem_cons_self ..)).step hk hstep
    · exact ih v hv

/-- In every state that is reached, a task that is on the queue and was not settled
is stored, or a client took it out of the set and has not put it back. -/
theorem Course.stored_or_adrift (hk : keys.Apart) {ws : List World} (h : Course keys ws) (hw : w ∈ ws)
    (ht : t ∈ w.enqueued) (hsettled : ¬ w.Settled t) : w.Stores keys t ∨ w.Adrift t :=
  ((h.invariant hk w hw).kept t ht).resolve_left hsettled

end

/-- **A queue keeps every task that was not settled exactly as long as no client
takes the last text of one out of the set of tasks put aside.** Clients go on in
any order, are refused, and stop for good wherever they are; no other request of
any of them loses a task, and this one always does, until it is put back. At any
time, a task that is stored nowhere was taken out of the set, and not put back. -/
theorem keeps_iff_takes_no_last {start : String} {ws : List World} (h : Course (.startingWith start) ws) :
    ((∀ w ∈ ws, w.Keeps (.startingWith start)) ↔
      ws.IsChain fun w' w => ¬ TakesLast (.startingWith start) w w') ∧
    ∀ w ∈ ws, ∀ t ∈ w.enqueued, ¬ w.Settled t → w.Stores (.startingWith start) t ∨ w.Adrift t := by
  have hk := RedisKeys.apart_startingWith start
  refine ⟨?_, fun w hw t ht hsettled => h.stored_or_adrift hk hw ht hsettled⟩
  induction h with
  | @start w hw =>
    refine ⟨fun _ => .singleton _, fun _ v hv t ht => ?_⟩
    rw [List.mem_singleton.1 hv, hw.enqueued] at ht
    cases ht
  | @step w w' ws hcourse hstep ih =>
    have hinv := hcourse.invariant hk w (List.mem_cons_self ..)
    rw [List.isChain_cons_cons]
    constructor
    · exact fun hall => ⟨fun hlast => not_keeps_of_takesLast hlast (hall w' (List.mem_cons_self ..)),
        ih.1 fun v hv => hall v (List.mem_cons_of_mem _ hv)⟩
    · rintro ⟨hlast, hchain⟩ v hv
      have hall := ih.2 hchain
      rcases List.mem_cons.1 hv with rfl | hv
      · exact (hall w (List.mem_cons_self ..)).step hk hinv hstep hlast
      · exact hall v hv

/-- In the course in which a task is lost, some step does take a last text. -/
theorem lossy_course_takes_last : ∃ ws, Course (.startingWith "push_relay:tasks") ws ∧
    ¬ ws.IsChain fun w' w => ¬ TakesLast (.startingWith "push_relay:tasks") w w' := by
  obtain ⟨ws, w, hcourse, hw, ht, hsettled, hstores, -⟩ :=
    exists_lost (RedisKeys.apart_startingWith "push_relay:tasks") sampleTask_sound
  refine ⟨ws, hcourse, fun hchain => ?_⟩
  exact hstores ((keeps_iff_takes_no_last hcourse).1.2 hchain w hw sampleTask ht hsettled)

/-- Not every course keeps all tasks: a task that was put on the queue, and neither
done nor given up, is in none of the places where it could be found again. -/
theorem not_every_course_keeps : ¬ ∀ ws, Course (.startingWith "push_relay:tasks") ws →
    ∀ w ∈ ws, w.Keeps (.startingWith "push_relay:tasks") := by
  intro hall
  obtain ⟨ws, w, hcourse, hw, ht, hsettled, hstores, -⟩ :=
    exists_lost (RedisKeys.apart_startingWith "push_relay:tasks") sampleTask_sound
  exact hstores (hall ws hcourse w hw sampleTask ht hsettled)

end World
end Courier.RedisQueue
