import Courier.Proofs.Worker.Ends
/-
What can be asked and answered while a message is delivered. A course stops after
the first lookup, after the second, or goes on to the target; each of the logs that
it can leave is `Decided`.
-/

namespace Courier.Worker

open Procedure

section

variable {w : Worker} {m : Message} {l : WorkerLog} {r : Option (Except TaskError TaskOutcome)}

/-- A log in which nothing was delivered. -/
theorem Decided.looked (hl : ∀ x ∈ l, x.1.isDeliver = false ∧ x.1.isSent = false) (fresh : (l.map (·.1)).Nodup)
    (horder : ∀ id x, (⟨.store (.target id), x⟩ : (q : WorkerAsk) × Option q.Answer) ∈ l →
      ∃ a, Found m l a ∧ a.enable = true ∧ id = a.target)
    (hcause : ∀ v, r = some v → Cause w m l (.of v) ∧ TaskRecord.of v ≠ .delivered) : Decided w m l r where
  fresh := fresh
  once := by
    rw [List.countP_eq_zero.2 fun x hx => by simp [hl x hx]]
    exact Nat.zero_le 1
  gate id m' args x hx := by cases (hl _ hx).1
  order := horder
  cause v hv := (hcause v hv).1
  sentOnce := by
    rw [List.countP_eq_zero.2 fun x hx => by simp [hl x hx]]
    exact Nat.zero_le 1
  sent token x hx := by cases (hl _ hx).2
  counted v hv hdelivered := absurd hdelivered (hcause v hv).2

theorem Decided.firstLook {x : Option (RepositoryCall.Timely (.application m.user m.token))}
    (hcause : ∀ v, r = some v →
      Cause w m [⟨.store (.application m.user m.token), x⟩] (.of v) ∧ TaskRecord.of v ≠ .delivered) :
    Decided w m [⟨.store (.application m.user m.token), x⟩] r := by
  refine .looked (by simp [WorkerAsk.isDeliver, WorkerAsk.isSent]) (by simp) (fun id y hy => ?_) hcause
  cases List.mem_singleton.1 hy

theorem Decided.secondLook {a : Application} (ha : a.enable = true) {x : Option (RepositoryCall.Timely (.target a.target))}
    (hcause : ∀ v, r = some v →
      Cause w m [⟨.store (.application m.user m.token), some (some (.ok a))⟩, ⟨.store (.target a.target), x⟩] (.of v) ∧
        TaskRecord.of v ≠ .delivered) :
    Decided w m [⟨.store (.application m.user m.token), some (some (.ok a))⟩, ⟨.store (.target a.target), x⟩] r := by
  refine .looked (by simp [WorkerAsk.isDeliver, WorkerAsk.isSent]) (by simp) (fun id y hy => ?_) hcause
  rcases List.mem_cons.1 hy with hy | hy
  · cases hy
  · cases List.mem_singleton.1 hy
    exact ⟨a, List.mem_cons_self, ha, rfl⟩

/-- What a lookup that found nothing leads to. -/
theorem cause_missing {reason : SkipReason} {e : ResolveError}
    (h : e.isNotFound ∧ NotThere m l ∨ e.isNotFound = false ∧ Failed m l) :
    Cause w m l (.of (missing m.isViaSubmit reason e)) ∧
      TaskRecord.of (missing m.isViaSubmit reason e) ≠ .delivered := by
  unfold missing
  rcases h with ⟨he, hnot⟩ | ⟨he, hfailed⟩
  · cases hvia : m.isViaSubmit with
    | true =>
      simp only [he, Bool.and_self, if_true]
      exact ⟨.inr (.inr ⟨hvia, hnot⟩), by simp [TaskRecord.of]⟩
    | false =>
      simp only [he, Bool.and_false, Bool.false_eq_true, if_false]
      exact ⟨.inr (.inl ⟨hvia, hnot⟩), by simp [TaskRecord.of, TaskError.isRetryable]⟩
  · simp only [he, Bool.false_and, Bool.false_eq_true, if_false]
    exact ⟨.inl hfailed, by simp [TaskRecord.of, TaskError.isRetryable]⟩

/-- The log of two lookups that found an application and its target. -/
def lookedUp (m : Message) (a : Application) (t : Target) : WorkerLog :=
  [⟨.store (.application m.user m.token), some (some (.ok a))⟩, ⟨.store (.target a.target), some (some (.ok t))⟩]

theorem aimed_lookedUp {a : Application} {t : Target} (ha : a.enable = true) : Aimed m (lookedUp m a t ++ l) a t :=
  ⟨List.mem_cons_self, ha, List.mem_cons_of_mem _ List.mem_cons_self⟩

theorem quiet_lookedUp (a : Application) (t : Target) :
    ∀ x ∈ lookedUp m a t, x.1.isDeliver = false ∧ x.1.isSent = false := by
  intro x hx
  rcases List.mem_cons.1 hx with rfl | hx
  · exact ⟨rfl, rfl⟩
  · rw [List.mem_singleton.1 hx]
    exact ⟨rfl, rfl⟩

theorem order_lookedUp {a : Application} {t : Target} {id : String} {x : Option (RepositoryCall.Timely (.target id))}
    (hx : (⟨.store (.target id), x⟩ : (q : WorkerAsk) × Option q.Answer) ∈ lookedUp m a t) : id = a.target := by
  rcases List.mem_cons.1 hx with hx | hx
  · cases hx
  · cases List.mem_singleton.1 hx
    rfl

/-- A log that goes as far as a delivery, and on to the counter if it is to be counted. -/
theorem Decided.delivering {a : Application} {t : Target} (ha : a.enable = true) (ht : t.enable = true)
    (hkind : TargetKind.ofName? t.kind ≠ none) {m' : Message} {b : Bool}
    (hencrypt : Encryption.encrypt w.cipher a.encryptionPolicy m = .ok (m', b)) {x : Option (Except RegistryError Unit)}
    {l' : WorkerLog}
    (hl' : l' = [] ∨ (∃ y, l' = [⟨.store (.increment m.token .sent), y⟩]) ∧ m.isViaSubmit = false ∧ x = some (.ok ()))
    (hcause : ∀ v, r = some v →
      Cause w m (lookedUp m a t ++ ⟨.deliver t.id m' (t.mergeArgs a.targetArgs), x⟩ :: l') (.of v))
    (hcounted : ∀ v, r = some v → TaskRecord.of v = .delivered → m.isViaSubmit = false → l' ≠ []) :
    Decided w m (lookedUp m a t ++ ⟨.deliver t.id m' (t.mergeArgs a.targetArgs), x⟩ :: l') r where
  fresh := by
    rcases hl' with rfl | ⟨⟨y, rfl⟩, -⟩ <;> simp [lookedUp]
  once := by
    rcases hl' with rfl | ⟨⟨y, rfl⟩, -⟩ <;> simp [lookedUp, WorkerAsk.isDeliver]
  gate id m₁ args y hy := by
    refine ⟨a, t, b, aimed_lookedUp ha, ht, hkind, ?_⟩
    rcases List.mem_append.1 hy with hy | hy
    · cases (quiet_lookedUp a t _ hy).1
    rcases List.mem_cons.1 hy with hy | hrest
    · cases hy
      exact ⟨hencrypt, rfl, rfl⟩
    · rcases hl' with rfl | ⟨⟨z, rfl⟩, -⟩
      · cases hrest
      · cases List.mem_singleton.1 hrest
  order id y hy := by
    refine ⟨a, (aimed_lookedUp ha).1, ha, ?_⟩
    rcases List.mem_append.1 hy with hy | hy
    · exact order_lookedUp hy
    rcases List.mem_cons.1 hy with hy | hrest
    · cases hy
    · rcases hl' with rfl | ⟨⟨z, rfl⟩, -⟩
      · cases hrest
      · cases List.mem_singleton.1 hrest
  cause := hcause
  sentOnce := by
    rcases hl' with rfl | ⟨⟨y, rfl⟩, -⟩ <;> simp [lookedUp, WorkerAsk.isSent]
  sent token y hy := by
    rcases List.mem_append.1 hy with hy | hy
    · cases (quiet_lookedUp a t _ hy).2
    rcases List.mem_cons.1 hy with hy | hrest
    · cases hy
    rcases hl' with rfl | ⟨⟨z, rfl⟩, hvia, rfl⟩
    · cases hrest
    · cases List.mem_singleton.1 hrest
      exact ⟨rfl, hvia, t.id, m', _, _, rfl, List.mem_append_right _ List.mem_cons_self⟩
  counted v hv hdelivered hvia := by
    rcases hl' with rfl | ⟨⟨y, rfl⟩, -⟩
    · exact absurd rfl (hcounted v hv hdelivered hvia)
    · exact ⟨y, List.mem_append_right _ (List.mem_cons_of_mem _ List.mem_cons_self)⟩

theorem Executed.imp {P P' : Except RegistryError Unit → Prop} (h : Executed l P) (hP : ∀ x, P x → P' x) :
    Executed l P' := by
  obtain ⟨id, m', args, x, hx, hmem⟩ := h
  exact ⟨id, m', args, x, hP x hx, hmem⟩

theorem runs_look {α : Type} {p : Lookups α} {r : Option α} (h : (look p).Runs l r) :
    ∃ l', p.Runs l' r ∧ l = Log.translate (B := WorkerAsk.Answer) WorkerAsk.store l' :=
  runs_through (f := WorkerAsk.store) h

theorem runs_increment {limit : Duration} {token : String} {stat : Stat} {r : Option (Except RepositoryError Unit)}
    (h : (look (Resolver.increment limit token stat)).Runs l r) : ∃ y, l = [⟨.store (.increment token stat), y⟩] := by
  obtain ⟨l', h₁, rfl⟩ := runs_look h
  rcases runs_ask h₁ with ⟨rfl, -⟩ | ⟨x, l₁, rfl, h₂⟩
  · exact ⟨none, rfl⟩
  · cases x with
    | none =>
      obtain ⟨rfl, -⟩ := runs_result h₂
      exact ⟨some none, rfl⟩
    | some x =>
      obtain ⟨rfl, -⟩ := runs_result h₂
      exact ⟨some (some x), rfl⟩

/-- The log of what comes after the lookups. -/
theorem send_decided {a : Application} {t : Target} (ha : a.enable = true) (ht : t.enable = true)
    (h : (w.send m a ⟨t, t.mergeArgs a.targetArgs⟩).Runs l r) : Decided w m (lookedUp m a t ++ l) r := by
  have haimed : Aimed m (lookedUp m a t ++ []) a t := aimed_lookedUp ha
  unfold send at h
  dsimp only at h
  split at h
  · next hkind =>
    obtain ⟨rfl, rfl⟩ := runs_result h
    refine .secondLook ha fun v hv => ?_
    cases hv
    exact ⟨⟨a, t, haimed, ht, .inl (Option.isNone_iff_eq_none.1 hkind)⟩, by simp [TaskRecord.of, TaskError.isRetryable]⟩
  next hkind =>
  have hkind : TargetKind.ofName? t.kind ≠ none := fun hnone => hkind (by simp [hnone])
  split at h
  · next e he =>
    obtain ⟨rfl, rfl⟩ := runs_result h
    refine .secondLook ha fun v hv => ?_
    cases hv
    exact ⟨⟨a, t, haimed, ht, .inr ⟨e, he⟩⟩, by simp [TaskRecord.of, TaskError.isRetryable]⟩
  next m' b hencrypt =>
  rcases runs_ask h with ⟨rfl, rfl⟩ | ⟨x, l', rfl, h₁⟩
  · exact .delivering ha ht hkind hencrypt (.inl rfl) (by simp) (by simp)
  have hexecuted (l' : WorkerLog) :
      Executed (lookedUp m a t ++ ⟨.deliver t.id m' (t.mergeArgs a.targetArgs), some x⟩ :: l') (· = x) :=
    ⟨_, _, _, x, rfl, List.mem_append_right _ List.mem_cons_self⟩
  cases x with
  | error e =>
    obtain ⟨rfl, rfl⟩ := runs_result h₁
    refine .delivering ha ht hkind hencrypt (.inl rfl) (fun v hv => ?_) fun v hv hdelivered => ?_
    · cases hv
      exact .inr (.inr ((hexecuted []).imp fun x hx => ⟨e, hx⟩))
    · cases hv
      simp [TaskRecord.of, TaskError.isRetryable] at hdelivered
  | ok _ =>
    dsimp only at h₁
    split at h₁
    · next hvia =>
      obtain ⟨rfl, rfl⟩ := runs_result h₁
      refine .delivering ha ht hkind hencrypt (.inl rfl) (fun v hv => ?_) fun v hv _ hno => ?_
      · cases hv
        exact hexecuted []
      · rw [hvia] at hno
        cases hno
    · next hvia =>
      have hvia : m.isViaSubmit = false := by simpa using hvia
      rcases runs_bind h₁ with ⟨h₂, rfl⟩ | ⟨_, l₁, l₂, rfl, h₂, h₃⟩
      · obtain ⟨y, rfl⟩ := runs_increment h₂
        exact .delivering ha ht hkind hencrypt (.inr ⟨⟨y, rfl⟩, hvia, rfl⟩) (by simp) (by simp)
      · obtain ⟨y, rfl⟩ := runs_increment h₂
        obtain ⟨rfl, rfl⟩ := runs_result h₃
        refine .delivering ha ht hkind hencrypt (.inr ⟨⟨y, rfl⟩, hvia, rfl⟩) (fun v hv => ?_) fun _ _ _ _ => by simp
        cases hv
        exact hexecuted _

theorem runs_lookup {c : RepositoryCall} {missing : ResolveError} {r : Option (Except ResolveError c.Result)}
    (h : (look (Resolver.lookup w.limit c missing)).Runs l r) :
    l = [⟨.store c, none⟩] ∧ r = none ∨
      ∃ x, l = [⟨.store c, some x⟩] ∧ r = some (Resolver.found w.limit missing x) := by
  obtain ⟨l', h₁, rfl⟩ := runs_look h
  rcases Resolver.runs_lookup h₁ with ⟨rfl, rfl⟩ | ⟨x, rfl, rfl⟩
  · exact .inl ⟨rfl, rfl⟩
  · exact .inr ⟨x, rfl, rfl⟩

theorem runs_target {a : Application} {r : Option (Except ResolveError ResolvedTarget)}
    (h : (look (Resolver.target w.limit a)).Runs l r) :
    l = [⟨.store (.target a.target), none⟩] ∧ r = none ∨
      ∃ x, l = [⟨.store (.target a.target), some x⟩] ∧
        ((∃ t, x = some (.ok t) ∧ r = some (.ok ⟨t, t.mergeArgs a.targetArgs⟩)) ∨
          ∃ e, Resolver.found w.limit (.targetNotFound a.target) x = .error e ∧ r = some (.error e)) := by
  obtain ⟨l', h₁, rfl⟩ := runs_look h
  rcases Resolver.runs_target h₁ with ⟨rfl, rfl⟩ | ⟨x, rfl, hx⟩
  · exact .inl ⟨rfl, rfl⟩
  · exact .inr ⟨x, rfl, hx⟩

/-- What is not found is missing, or the store failed. -/
theorem came_of_error {c : RepositoryCall} {gone : ResolveError} (hgone : gone.isNotFound) {x : c.Timely} {e : ResolveError}
    (hx : Resolver.found w.limit gone x = .error e)
    (hcame : ∀ P : (c : RepositoryCall) → c.Timely → Prop, P c x → Came m l P) :
    e.isNotFound ∧ NotThere m l ∨ e.isNotFound = false ∧ Failed m l := by
  rcases Resolver.found_error hgone hx with ⟨he, h⟩ | ⟨he, h⟩
  · exact .inl ⟨he, hcame _ h⟩
  · exact .inr ⟨he, hcame _ h⟩

theorem process_decided (h : (w.process m).Runs l r) : Decided w m l r := by
  rcases runs_bind h with ⟨h₁, rfl⟩ | ⟨application, l₁, l₂, rfl, h₁, h₂⟩
  · rcases runs_lookup h₁ with ⟨rfl, -⟩ | ⟨x, -, hx⟩
    · exact .firstLook (by simp)
    · cases hx
  rcases runs_lookup h₁ with ⟨-, hx⟩ | ⟨x, rfl, hx⟩
  · cases hx
  cases application with
  | error e =>
    obtain ⟨rfl, rfl⟩ := runs_result h₂
    refine .firstLook fun v hv => ?_
    cases hv
    refine cause_missing (came_of_error rfl (Option.some.inj hx).symm fun P hP => .inl ⟨x, hP, ?_⟩)
    exact List.mem_cons_self
  | ok a =>
    obtain rfl := Resolver.found_ok (Option.some.inj hx).symm
    dsimp only at h₂
    split at h₂
    · next hdisabled =>
      obtain ⟨rfl, rfl⟩ := runs_result h₂
      refine .firstLook fun v hv => ?_
      cases hv
      exact ⟨.inl ⟨a, List.mem_cons_self, by simpa using hdisabled⟩, by simp [TaskRecord.of]⟩
    next henabled =>
    have ha : a.enable = true := by simpa using henabled
    rcases runs_bind h₂ with ⟨h₃, rfl⟩ | ⟨target, l₃, l₄, rfl, h₃, h₄⟩
    · rcases runs_target h₃ with ⟨rfl, -⟩ | ⟨y, -, ⟨t, -, hr⟩ | ⟨e, -, hr⟩⟩
      · exact .secondLook ha (by simp)
      · cases hr
      · cases hr
    rcases runs_target h₃ with ⟨-, hr⟩ | ⟨y, rfl, ⟨t, rfl, hr⟩ | ⟨e, he, hr⟩⟩
    · cases hr
    · cases hr
      dsimp only at h₄
      split at h₄
      · next hdisabled =>
        obtain ⟨rfl, rfl⟩ := runs_result h₄
        refine .secondLook ha fun v hv => ?_
        cases hv
        exact ⟨.inr (.inl ⟨a, t, aimed_lookedUp (l := []) ha, by simpa using hdisabled⟩), by simp [TaskRecord.of]⟩
      · next henabled => exact send_decided ha (by simpa using henabled) h₄
    · cases hr
      obtain ⟨rfl, rfl⟩ := runs_result h₄
      refine .secondLook ha fun v hv => ?_
      cases hv
      refine cause_missing (came_of_error rfl he fun P hP => .inr ⟨a, y, hP, List.mem_cons_self, ha, ?_⟩)
      exact List.mem_cons_of_mem _ List.mem_cons_self

end

end Courier.Worker
