import Courier.Ingress
import Courier.Proofs.Extraction
import Courier.Proofs.Outcome
import Courier.Proofs.Tenant.Resolver
/-
What taking in a message does to the queue. Before anything is put there, the user
and the application of the token were looked up and the message was checked; and
what is put there is read back as a message that belongs to that user. Nothing is
put there twice, and taking in succeeds just when the queue took the task.

The proof follows a log from its one question to the queue: all questions before
it and after it are about something else (`Quiet`), so each part of the course
adds to a log that was `Tried` without touching what is known of it.
-/

namespace Courier

/-- Whether something is to be put on the queue. -/
def IngressAsk.isEnqueue : IngressAsk → Bool
  | .enqueue _ => true
  | .store _ | .stamp | .count _ => false

namespace Ingress

open Procedure

abbrev IngressLog : Type := Log IngressAsk.Answer

/-- Whether nothing was to be put on the queue. -/
def Quiet (l : IngressLog) : Prop := ∀ x ∈ l, x.1.isEnqueue = false

theorem Quiet.append {l₁ l₂ : IngressLog} (h₁ : Quiet l₁) (h₂ : Quiet l₂) : Quiet (l₁ ++ l₂) := by
  intro x hx
  rcases List.mem_append.1 hx with hx | hx
  · exact h₁ x hx
  · exact h₂ x hx

theorem quiet_one {q : IngressAsk} (hq : q.isEnqueue = false) (x : Option q.Answer) : Quiet [⟨q, x⟩] := by
  intro y hy
  rw [List.mem_singleton.1 hy]
  exact hq

theorem runs_look {α : Type} {p : Lookups α} {l : IngressLog} {r : Option α} (h : (look p).Runs l r) :
    ∃ l', p.Runs l' r ∧ l = Log.translate (B := IngressAsk.Answer) IngressAsk.store l' :=
  runs_through (f := IngressAsk.store) h

theorem quiet_look {α : Type} {p : Lookups α} {l : IngressLog} {r : Option α} (h : (look p).Runs l r) : Quiet l := by
  obtain ⟨l', -, rfl⟩ := runs_look h
  intro x hx
  obtain ⟨y, -, rfl⟩ := List.mem_map.1 hx
  rfl

/-- What can have come of taking in: nothing was to be put on the queue, and nothing
was taken in; or one task was, and it was taken in if the queue took it. -/
inductive Tried (P : Task → Prop) : IngressLog → Option (Except Refusal Unit) → Prop
  | nothing {l : IngressLog} {r : Option (Except Refusal Unit)} (quiet : Quiet l) (hr : r ≠ some (.ok ())) : Tried P l r
  | put {l₁ l₂ : IngressLog} {t : Task} {x : Option (Except QueueError Unit)} {r : Option (Except Refusal Unit)}
    (before : Quiet l₁) (after : Quiet l₂) (ht : P t) (hr : ∀ y, r = some y → (y = .ok () ↔ x = some (.ok ()))) :
    Tried P (l₁ ++ ⟨.enqueue t, x⟩ :: l₂) r

namespace Tried

variable {P : Task → Prop} {l : IngressLog} {r : Option (Except Refusal Unit)}

theorem only {t : Task} {x : Option (Except QueueError Unit)} (ht : P t)
    (hr : ∀ y, r = some y → (y = .ok () ↔ x = some (.ok ()))) : Tried P [⟨.enqueue t, x⟩] r := by
  have hnone : Quiet [] := fun _ h => by cases h
  exact .put hnone hnone ht hr

theorem mono {P' : Task → Prop} (h : Tried P l r) (hsub : ∀ t, P t → P' t) : Tried P' l r := by
  cases h with
  | nothing quiet hr => exact .nothing quiet hr
  | put before after ht hr => exact .put before after (hsub _ ht) hr

theorem prepend {l₀ : IngressLog} (h₀ : Quiet l₀) (h : Tried P l r) : Tried P (l₀ ++ l) r := by
  cases h with
  | nothing quiet hr => exact .nothing (h₀.append quiet) hr
  | put before after ht hr =>
    rw [← List.append_assoc]
    exact .put (h₀.append before) after ht hr

/-- What happens after the outcome is clear changes nothing. -/
theorem append {y : Except Refusal Unit} {l₂ : IngressLog} (h : Tried P l (some y)) (h₂ : Quiet l₂)
    (hr : r = none ∨ r = some y) : Tried P (l ++ l₂) r := by
  cases h with
  | nothing quiet hy =>
    refine .nothing (quiet.append h₂) fun he => ?_
    rcases hr with rfl | rfl
    · cases he
    · exact hy he
  | put before after ht hy =>
    rw [List.append_assoc, List.cons_append]
    refine .put before (after.append h₂) ht fun z hz => ?_
    rcases hr with rfl | rfl
    · cases hz
    · exact hy z hz

theorem once (h : Tried P l r) : (l.countP (·.1.isEnqueue)) ≤ 1 := by
  have hquiet : ∀ {l : IngressLog}, Quiet l → (l.countP (·.1.isEnqueue)) = 0 := fun hl => by
    rw [List.countP_eq_zero]
    exact fun x hx => by simp [hl x hx]
  cases h with
  | nothing quiet _ =>
    rw [hquiet quiet]
    exact Nat.zero_le 1
  | put before after _ _ =>
    rw [List.countP_append, List.countP_cons, hquiet before, hquiet after]
    simp [IngressAsk.isEnqueue]

theorem asked (h : Tried P l r) {t : Task} {x : Option (Except QueueError Unit)}
    (hx : (⟨.enqueue t, x⟩ : (q : IngressAsk) × Option q.Answer) ∈ l) :
    P t ∧ ∀ y, r = some y → (y = .ok () ↔ x = some (.ok ())) := by
  cases h with
  | nothing quiet _ => cases quiet _ hx
  | put before after ht hr =>
    rcases List.mem_append.1 hx with hx | hx
    · cases before _ hx
    · rcases List.mem_cons.1 hx with hx | hx
      · cases hx
        exact ⟨ht, hr⟩
      · cases after _ hx

theorem taken (h : Tried P l (some (.ok ()))) :
    ∃ t, (⟨.enqueue t, some (.ok ())⟩ : (q : IngressAsk) × Option q.Answer) ∈ l := by
  cases h with
  | nothing _ hr => cases hr rfl
  | @put l₁ l₂ t x _ _ _ _ hr =>
    obtain rfl := (hr _ rfl).1 rfl
    exact ⟨t, List.mem_append_right _ List.mem_cons_self⟩

end Tried

/-! ## The parts of the course -/

/-- A message that is ready is the one that was sent, but for its owner and its flag. -/
theorem prepare_ok {m m' : Message} {token user : String} {viaSubmit : Bool}
    (h : prepare m token user viaSubmit = .ok m') :
    m'.token = token ∧ m'.user = user ∧ m'.isViaSubmit = viaSubmit ∧ m'.validate = .ok () ∧ (m.Sized → m'.Sized) := by
  unfold prepare at h
  dsimp only at h
  split at h
  · cases h
  · next hvalid =>
    cases h
    exact ⟨rfl, rfl, rfl, hvalid, fun hm => ⟨hm.html, hm.priority, hm.timestamp, hm.ttl⟩⟩

theorem runs_enqueue {m : Message} {l : IngressLog} {r : Option (Except Refusal Unit)} (h : (enqueue m).Runs l r) :
    Tried (fun t => t.kind = Task.messageKind ∧ t.payload = m.encode) l r := by
  rcases runs_ask h with ⟨rfl, rfl⟩ | ⟨stamp, l₁, rfl, h₁⟩
  · exact .nothing (quiet_one rfl _) (by simp)
  refine Tried.prepend (quiet_one rfl _) ?_
  rcases runs_ask h₁ with ⟨rfl, rfl⟩ | ⟨x, l₂, rfl, h₂⟩
  · exact .only ⟨rfl, rfl⟩ fun y hy => by cases hy
  · cases x with
    | ok _ =>
      obtain ⟨rfl, rfl⟩ := runs_result h₂
      refine .only ⟨rfl, rfl⟩ fun y hy => ?_
      cases hy
      exact ⟨fun _ => rfl, fun _ => rfl⟩
    | error e =>
      obtain ⟨rfl, rfl⟩ := runs_result h₂
      refine .only ⟨rfl, rfl⟩ fun y hy => ?_
      cases hy
      exact ⟨fun h => (by cases h), fun h => by cases h⟩

theorem takeIn_tried {g : Ingress} {s : Submission} {token : String} {u : User} {m : Message} {pretty : String}
    {l : IngressLog} {r : Option (Except Refusal Unit)} (h : (g.takeIn s token u m pretty).Runs l r) :
    Tried
      (fun t => t.kind = Task.messageKind ∧
        ∃ m', prepare m token u.key (s.route == .submit) = .ok m' ∧ t.payload = m'.encode) l r := by
  rcases runs_bind h with ⟨h₁, rfl⟩ | ⟨_, l₁, l₂, rfl, h₁, h₂⟩
  · exact .nothing (quiet_look h₁) (by simp)
  refine Tried.prepend (quiet_look h₁) ?_
  split at h₂
  · obtain ⟨rfl, rfl⟩ := runs_result h₂
    exact .nothing (by simp [Quiet]) (by simp)
  next m' hm' =>
  rcases runs_bind h₂ with ⟨h₃, rfl⟩ | ⟨x, l₃, l₄, rfl, h₃, h₄⟩
  · exact (runs_enqueue h₃).mono fun t ht => ⟨ht.1, m', hm', ht.2⟩
  have htried : Tried (fun t => t.kind = Task.messageKind ∧
      ∃ m', prepare m token u.key (s.route == .submit) = .ok m' ∧ t.payload = m'.encode) l₃ (some x) :=
    (runs_enqueue h₃).mono fun t ht => ⟨ht.1, m', hm', ht.2⟩
  cases x with
  | error e =>
    obtain ⟨rfl, rfl⟩ := runs_result h₄
    exact htried.append (by simp [Quiet]) (.inr rfl)
  | ok _ =>
    -- the counters come after the queue took the task
    rcases runs_bind h₄ with ⟨h₅, rfl⟩ | ⟨_, l₅, l₆, rfl, h₅, h₆⟩
    · obtain rfl := runs_query h₅
      exact htried.append (quiet_one rfl _) (.inl rfl)
    obtain rfl := runs_query h₅
    rcases runs_bind h₆ with ⟨h₇, rfl⟩ | ⟨_, l₇, l₈, rfl, h₇, h₈⟩
    · exact htried.append ((quiet_one rfl _).append (quiet_look h₇)) (.inl rfl)
    · obtain ⟨rfl, rfl⟩ := runs_result h₈
      rw [List.append_nil]
      exact htried.append ((quiet_one rfl _).append (quiet_look h₇)) (.inr rfl)

/-- What is known of a task that is put on the queue for a submission: its message,
and the user and the application that the store gave for it. -/
structure Admitted (s : Submission) (l : IngressLog) (t : Task) (sent : Option Message) (m : Message) (u : User)
    (a : Application) : Prop where
  read : message? s = .ok sent
  kind : t.kind = Task.messageKind
  written : t.payload = m.encode
  carried : Message.decode t.payload = .ok m
  valid : m.validate = .ok ()
  token : m.token = tokenOf s sent
  user : m.user = u.key
  viaSubmit : m.isViaSubmit = (s.route == .submit)
  owner : ⟨.store (.userOf m.token), some (some (.ok u))⟩ ∈ l
  application : ⟨.store (.application u.key m.token), some (some (.ok a))⟩ ∈ l
  enabled : s.route ≠ .submit → u.enable = true ∧ a.enable = true

theorem read_ok {α : Type} {d : Json.Decoder α} {what : String} {body : List UInt8} {a : α}
    (h : read d what body = .ok a) : d.run (Text.decode body) = .ok a := by
  unfold read at h
  exact ok_of_mapError h

/-- A message that was read has its token and numbers that fit, and no flag set. -/
theorem readMessage_ok {body : List UInt8} {m : Message} (h : readMessage body = .ok m) :
    (∃ m', (Message.layout : Json.Decoder Message).run (Text.decode body) = .ok m' ∧ m.token = m'.token) ∧ m.Sized := by
  obtain ⟨m', hread, rfl⟩ := ok_of_map h
  have hrun := read_ok hread
  have hm := Json.Decoder.run_yields Message.layout_yields hrun
  exact ⟨⟨m', hrun, rfl⟩, hm.html, hm.priority, hm.timestamp, hm.ttl⟩

theorem message?_some {s : Submission} {m : Message} (h : message? s = .ok (some m)) : readMessage s.body = .ok m := by
  unfold message? at h
  split at h
  · cases h
  · obtain ⟨m', hm, he⟩ := ok_of_map h
    cases he
    exact hm

theorem interpret_sized {g : Ingress} (hdate : Extraction.Dates g.date) {a : Application} {body : List UInt8}
    {m : Message} {pretty : String} (h : g.interpret a body = .ok (m, pretty)) : m.Sized := by
  unfold interpret at h
  split at h
  · obtain ⟨m', hm, he⟩ := ok_of_map h
    cases he
    exact (readMessage_ok hm).2
  · obtain ⟨v, -, he⟩ := ok_of_map h
    cases he
    exact Extraction.extract_sized hdate _ v

/-- What is taken in for a user and an application that were looked up is admitted. -/
theorem takeIn_admitted {g : Ingress} {s : Submission} {sent : Option Message} {u : User} {a : Application} {m : Message}
    {pretty : String} {l₁ l₂ : IngressLog} {r : Option (Except Refusal Unit)} (hsent : message? s = .ok sent)
    (hfound : (look (Resolver.byToken g.limit (tokenOf s sent) (s.route == .submit))).Runs l₁ (some (.ok (u, a))))
    (hsized : m.Sized) (h : (g.takeIn s (tokenOf s sent) u m pretty).Runs l₂ r) :
    Tried (fun t => ∃ sent m u a, Admitted s (l₁ ++ l₂) t sent m u a) l₂ r := by
  obtain ⟨l', hlookup, rfl⟩ := runs_look hfound
  obtain ⟨rfl, henabled⟩ := Resolver.byToken_ok hlookup
  refine (takeIn_tried h).mono fun t ⟨hkind, m', hm', hpayload⟩ => ?_
  obtain ⟨htoken, huser, hvia, hvalid, hsized'⟩ := prepare_ok hm'
  refine ⟨sent, m', u, a, hsent, hkind, hpayload, ?_, hvalid, htoken, huser, hvia, ?_, ?_, fun hroute => ?_⟩
  · rw [hpayload]
    exact Message.decode_encode (hsized' hsized)
  · rw [htoken]
    exact List.mem_append_left _ List.mem_cons_self
  · rw [htoken]
    exact List.mem_append_left _ (List.mem_cons_of_mem _ List.mem_cons_self)
  · exact henabled (by simpa using hroute)

theorem process_tried {g : Ingress} (hdate : Extraction.Dates g.date) {s : Submission} {l : IngressLog}
    {r : Option (Except Refusal Unit)} (h : (g.process s).Runs l r) :
    Tried (fun t => ∃ sent m u a, Admitted s l t sent m u a) l r := by
  unfold process at h
  split at h
  · obtain ⟨rfl, rfl⟩ := runs_result h
    exact .nothing (by simp [Quiet]) (by simp)
  next sent hsent =>
  dsimp only at h
  split at h
  · obtain ⟨rfl, rfl⟩ := runs_result h
    exact .nothing (by simp [Quiet]) (by simp)
  rcases runs_bind h with ⟨h₁, rfl⟩ | ⟨x, l₁, l₂, rfl, h₁, h₂⟩
  · exact .nothing (quiet_look h₁) (by simp)
  refine Tried.prepend (quiet_look h₁) ?_
  cases x with
  | error e =>
    obtain ⟨rfl, rfl⟩ := runs_result h₂
    exact .nothing (by simp [Quiet]) (by simp)
  | ok found =>
    obtain ⟨u, a⟩ := found
    cases sent with
    | some m => exact takeIn_admitted hsent h₁ (readMessage_ok (message?_some hsent)).2 h₂
    | none =>
      dsimp only at h₂
      split at h₂
      · obtain ⟨rfl, rfl⟩ := runs_result h₂
        exact .nothing (by simp [Quiet]) (by simp)
      · next m pretty hm => exact takeIn_admitted hsent h₁ (interpret_sized hdate hm) h₂

theorem Admitted.mono {s : Submission} {l l' : IngressLog} {t : Task} {sent : Option Message} {m : Message} {u : User}
    {a : Application} (h : Admitted s l t sent m u a) (hsub : l ⊆ l') : Admitted s l' t sent m u a :=
  { h with owner := hsub h.owner, application := hsub h.application }

/-- **The queue gets what was admitted, and once**, and the submission is taken in just when the queue took it. -/
theorem respond_tried {g : Ingress} (hdate : Extraction.Dates g.date) {s : Submission} {l : IngressLog}
    {r : Option (Except Refusal Unit)} (h : (g.respond s).Runs l r) :
    Tried (fun t => ∃ sent m u a, Admitted s l t sent m u a) l r := by
  rcases runs_bind h with ⟨h₁, rfl⟩ | ⟨x, l₁, l₂, rfl, h₁, h₂⟩
  · exact process_tried hdate h₁
  have htried : Tried (fun t => ∃ sent m u a, Admitted s (l₁ ++ l₂) t sent m u a) l₁ (some x) :=
    (process_tried hdate h₁).mono fun t ⟨sent, m, u, a, h⟩ => ⟨sent, m, u, a, h.mono (List.subset_append_left _ _)⟩
  rcases runs_bind h₂ with ⟨h₃, rfl⟩ | ⟨_, l₃, l₄, rfl, h₃, h₄⟩
  · obtain rfl := runs_query h₃
    exact htried.append (quiet_one rfl _) (.inl rfl)
  · obtain rfl := runs_query h₃
    obtain ⟨rfl, rfl⟩ := runs_result h₄
    exact htried.append (quiet_one rfl _) (.inr rfl)

/-! ## Identifiers and times -/

/-- Whether what is put on the queue has an identifier and a time that it was given, and was not tried yet. -/
def Stamped (l : IngressLog) : Prop :=
  ∀ t x, (⟨.enqueue t, x⟩ : (q : IngressAsk) × Option q.Answer) ∈ l →
    ∃ stamp, (⟨.stamp, some stamp⟩ : (q : IngressAsk) × Option q.Answer) ∈ l ∧
      t.id = stamp.1 ∧ t.enqueuedAt = stamp.2 ∧ t.attempts = 0

theorem Quiet.stamped {l : IngressLog} (h : Quiet l) : Stamped l := fun _ _ hx => by cases h _ hx

theorem additive_stamped : Log.Additive Stamped :=
  Log.additive_of_entries fun hsub ⟨stamp, hstamp, ht⟩ => ⟨stamp, hsub hstamp, ht⟩

theorem look_stamped {α : Type} (p : Lookups α) : (look p).Leaves Stamped := fun _ _ h => (quiet_look h).stamped

theorem count_stamped (c : Count) : (query (A := IngressAsk.Answer) (.count c)).Leaves Stamped := by
  intro l r h
  obtain rfl := runs_query h
  exact (quiet_one rfl _).stamped

theorem enqueue_stamped (m : Message) : (enqueue m).Leaves Stamped := by
  intro l r h
  rcases runs_ask h with ⟨rfl, rfl⟩ | ⟨stamp, l₁, rfl, h₁⟩
  · exact (quiet_one rfl _).stamped
  have hl₁ : ∃ x, l₁ = [⟨.enqueue ⟨stamp.1, Task.messageKind, m.encode, 0, stamp.2⟩, x⟩] := by
    rcases runs_ask h₁ with ⟨rfl, -⟩ | ⟨x, l₂, rfl, h₂⟩
    · exact ⟨none, rfl⟩
    · cases x with
      | ok _ | error _ =>
        obtain ⟨rfl, -⟩ := runs_result h₂
        exact ⟨_, rfl⟩
  obtain ⟨x, rfl⟩ := hl₁
  intro t y hy
  rcases List.mem_cons.1 hy with hy | hy
  · cases hy
  · cases List.mem_singleton.1 hy
    exact ⟨stamp, List.mem_cons_self, rfl, rfl, rfl⟩

theorem takeIn_stamped (g : Ingress) (s : Submission) (token : String) (u : User) (m : Message) (pretty : String) :
    (g.takeIn s token u m pretty).Leaves Stamped := by
  refine additive_stamped.bind (look_stamped _) fun _ => ?_
  cases prepare m token u.key (s.route == .submit) with
  | error e => exact additive_stamped.result _
  | ok m =>
    refine additive_stamped.bind (enqueue_stamped m) fun x => ?_
    cases x with
    | error e => exact additive_stamped.result _
    | ok _ =>
      refine additive_stamped.bind (count_stamped _) fun _ => ?_
      exact additive_stamped.bind (look_stamped _) fun _ => additive_stamped.result _

theorem process_stamped (g : Ingress) (s : Submission) : (g.process s).Leaves Stamped := by
  unfold process
  cases message? s with
  | error e => exact additive_stamped.result _
  | ok sent =>
    dsimp only
    split
    · exact additive_stamped.result _
    refine additive_stamped.bind (look_stamped _) fun found => ?_
    cases found with
    | error e => exact additive_stamped.result _
    | ok found =>
      cases sent with
      | some m => exact takeIn_stamped g s _ _ m _
      | none =>
        dsimp only
        split
        · exact additive_stamped.result _
        · exact takeIn_stamped g s _ _ _ _

theorem respond_stamped (g : Ingress) (s : Submission) : (g.respond s).Leaves Stamped :=
  additive_stamped.bind (process_stamped g s) fun _ => additive_stamped.bind (count_stamped _) fun _ => additive_stamped.result _

end Ingress
end Courier
