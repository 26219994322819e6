import Mathlib.Data.List.Nodup
import Courier.Worker
import Courier.Proofs.Tenant.Resolver
/-
What handling a task comes to. Which of the four ends it has is decided by what the
store answered, by the flags and the kind of what was found, by encryption and by the
target, in this order: what comes later is not even asked for if something before it
decides. A message is delivered once at most, and never before everything else is
clear.
-/

namespace Courier

/-- Whether something is to be delivered. -/
def WorkerAsk.isDeliver : WorkerAsk → Bool
  | .deliver _ _ _ => true
  | .store _ | .record _ => false

/-- Whether a message is to be counted as sent. -/
def WorkerAsk.isSent : WorkerAsk → Bool
  | .store (.increment _ .sent) => true
  | .store (.increment _ .received) | .store (.increment _ .processed) => false
  | .store (.userOf _) | .store (.application _ _) | .store .targets | .store (.target _) => false
  | .store (.saveInput _ _) | .store .health => false
  | .deliver _ _ _ | .record _ => false

namespace Worker

open Procedure

abbrev WorkerLog : Type := Log WorkerAsk.Answer

/-- The store answered a question. -/
def Told (l : WorkerLog) (c : RepositoryCall) (x : c.Timely) : Prop :=
  (⟨.store c, some x⟩ : (q : WorkerAsk) × Option q.Answer) ∈ l

/-- The application of a message was found. -/
def Found (m : Message) (l : WorkerLog) (a : Application) : Prop :=
  Told l (.application m.user m.token) (some (.ok a))

/-- The application of a message was found and is enabled, and its target was found. -/
def Aimed (m : Message) (l : WorkerLog) (a : Application) (t : Target) : Prop :=
  Found m l a ∧ a.enable = true ∧ Told l (.target a.target) (some (.ok t))

/-- Looking up the application or its target came to something. -/
def Came (m : Message) (l : WorkerLog) (P : (c : RepositoryCall) → c.Timely → Prop) : Prop :=
  (∃ x, P _ x ∧ Told l (.application m.user m.token) x) ∨
    ∃ a x, P _ x ∧ Found m l a ∧ a.enable = true ∧ Told l (.target a.target) x

/-- The store said that something is not there. -/
def NotThere (m : Message) (l : WorkerLog) : Prop := Came m l fun _ x => x = some (.error .notFound)

/-- The store failed in another way, or did not answer in time. -/
def Failed (m : Message) (l : WorkerLog) : Prop :=
  Came m l fun _ x => x = none ∨ ∃ e, e ≠ .notFound ∧ x = some (.error e)

/-- Something was handed to a target. -/
def Handed (l : WorkerLog) : Prop :=
  ∃ id m args y, (⟨.deliver id m args, y⟩ : (q : WorkerAsk) × Option q.Answer) ∈ l

/-- What was handed to a target came to something. -/
def Executed (l : WorkerLog) (P : Except RegistryError Unit → Prop) : Prop :=
  ∃ id m args x, P x ∧ (⟨.deliver id m args, some x⟩ : (q : WorkerAsk) × Option q.Answer) ∈ l

/-- What it takes for each end. -/
def Cause (w : Worker) (m : Message) (l : WorkerLog) : TaskRecord → Prop
  | .fatal => ∃ a t, Aimed m l a t ∧ t.enable = true ∧
      (TargetKind.ofName? t.kind = none ∨ ∃ e, Encryption.encrypt w.cipher a.encryptionPolicy m = .error e)
  | .skipped => (∃ a, Found m l a ∧ a.enable = false) ∨ (∃ a t, Aimed m l a t ∧ t.enable = false) ∨
      m.isViaSubmit = true ∧ NotThere m l
  | .retryable => Failed m l ∨ m.isViaSubmit = false ∧ NotThere m l ∨ Executed l fun x => ∃ e, x = .error e
  | .delivered => Executed l fun x => x = .ok ()

/-- What is known of a log, whatever end it came to. -/
structure Decided (w : Worker) (m : Message) (l : WorkerLog) (r : Option (Except TaskError TaskOutcome)) : Prop where
  /-- No question is asked twice. -/
  fresh : (l.map (·.1)).Nodup
  once : (l.countP fun x => x.1.isDeliver) ≤ 1
  gate : ∀ id m' args x, (⟨.deliver id m' args, x⟩ : (q : WorkerAsk) × Option q.Answer) ∈ l → ∃ a t b,
    Aimed m l a t ∧ t.enable = true ∧ TargetKind.ofName? t.kind ≠ none ∧
      Encryption.encrypt w.cipher a.encryptionPolicy m = .ok (m', b) ∧ id = t.id ∧ args = t.mergeArgs a.targetArgs
  order : ∀ id x, (⟨.store (.target id), x⟩ : (q : WorkerAsk) × Option q.Answer) ∈ l →
    ∃ a, Found m l a ∧ a.enable = true ∧ id = a.target
  cause : ∀ v, r = some v → Cause w m l (.of v)
  sentOnce : (l.countP fun x => x.1.isSent) ≤ 1
  sent : ∀ token x, (⟨.store (.increment token .sent), x⟩ : (q : WorkerAsk) × Option q.Answer) ∈ l →
    token = m.token ∧ m.isViaSubmit = false ∧ Cause w m l .delivered
  counted : ∀ v, r = some v → TaskRecord.of v = .delivered → m.isViaSubmit = false →
    ∃ x, (⟨.store (.increment m.token .sent), x⟩ : (q : WorkerAsk) × Option q.Answer) ∈ l

/-! ## One end only -/

section

variable {w : Worker} {m : Message} {l : WorkerLog} {r : Option (Except TaskError TaskOutcome)}

theorem Decided.told_unique (h : Decided w m l r) {c : RepositoryCall} {x y : c.Timely} (hx : Told l c x) (hy : Told l c y) :
    x = y := by
  have he := List.inj_on_of_nodup_map h.fresh hx hy rfl
  cases he
  rfl

theorem Decided.aimed_unique (h : Decided w m l r) {a a' : Application} {t t' : Target} (ha : Aimed m l a t)
    (ha' : Aimed m l a' t') : a = a' ∧ t = t' := by
  have happ := h.told_unique ha.1 ha'.1
  cases happ
  have htarget := h.told_unique ha.2.2 ha'.2.2
  cases htarget
  exact ⟨rfl, rfl⟩

/-- What looking up came to when the application was found. -/
theorem Decided.came_of_found (h : Decided w m l r) {a : Application} (ha : Found m l a)
    {P : (c : RepositoryCall) → c.Timely → Prop} (hP : ∀ c a, ¬ P c (some (.ok a))) (hcame : Came m l P) :
    a.enable = true ∧ ∃ x, P _ x ∧ Told l (.target a.target) x := by
  rcases hcame with ⟨x, hx, htold⟩ | ⟨a', x, hx, ha', henable, htold⟩
  · rw [h.told_unique htold ha] at hx
    exact absurd hx (hP _ _)
  · cases h.told_unique ha ha'
    exact ⟨henable, x, hx, htold⟩

theorem Decided.not_came_of_aimed (h : Decided w m l r) {a : Application} {t : Target} (ha : Aimed m l a t)
    {P : (c : RepositoryCall) → c.Timely → Prop} (hP : ∀ c a, ¬ P c (some (.ok a))) : ¬ Came m l P := by
  intro hcame
  obtain ⟨-, x, hx, htold⟩ := h.came_of_found ha.1 hP hcame
  rw [h.told_unique htold ha.2.2] at hx
  exact hP _ _ hx

theorem Decided.not_notThere (h : Decided w m l r) {a : Application} {t : Target} (ha : Aimed m l a t) : ¬ NotThere m l :=
  h.not_came_of_aimed ha fun _ _ h => by cases h

theorem Decided.not_failed (h : Decided w m l r) {a : Application} {t : Target} (ha : Aimed m l a t) : ¬ Failed m l :=
  h.not_came_of_aimed ha fun _ _ h => by rcases h with h | ⟨e, -, h⟩ <;> cases h

/-- A record that is not there is no other failure. -/
theorem Decided.not_failed_of_notThere (h : Decided w m l r) (hnot : NotThere m l) : ¬ Failed m l := by
  have hother {c : RepositoryCall} : ¬ ((some (.error .notFound) : c.Timely) = none ∨
      ∃ e, e ≠ .notFound ∧ (some (.error .notFound) : c.Timely) = some (.error e)) := by
    rintro (hx | ⟨e, he, hx⟩)
    · cases hx
    · cases hx
      exact he rfl
  intro hfailed
  rcases hnot with ⟨x, rfl, hx⟩ | ⟨a, x, rfl, ha, -, hx⟩
  · rcases hfailed with ⟨y, hy, htold⟩ | ⟨a, y, -, ha, -⟩
    · rw [h.told_unique htold hx] at hy
      exact hother hy
    · cases h.told_unique ha hx
  · obtain ⟨-, y, hy, htold⟩ := h.came_of_found ha (fun _ _ h => by rcases h with h | ⟨e, -, h⟩ <;> cases h) hfailed
    rw [h.told_unique htold hx] at hy
    exact hother hy

/-- What is delivered was aimed at an enabled target of a known kind, and encrypted. -/
theorem Decided.executed (h : Decided w m l r) {P : Except RegistryError Unit → Prop} (hP : Executed l P) :
    ∃ a t, Aimed m l a t ∧ t.enable = true ∧ TargetKind.ofName? t.kind ≠ none ∧
      ∀ e, Encryption.encrypt w.cipher a.encryptionPolicy m ≠ .error e := by
  obtain ⟨id, m', args, x, -, hx⟩ := hP
  obtain ⟨a, t, b, ha, ht, hkind, hencrypt, -⟩ := h.gate id m' args _ hx
  refine ⟨a, t, ha, ht, hkind, fun e he => ?_⟩
  rw [hencrypt] at he
  cases he

theorem Decided.executed_unique (h : Decided w m l r) {P P' : Except RegistryError Unit → Prop} (hP : Executed l P)
    (hP' : Executed l P') : ∃ x, P x ∧ P' x := by
  obtain ⟨id, m₁, args, x, hx, hmem⟩ := hP
  obtain ⟨id', m₂, args', y, hy, hmem'⟩ := hP'
  obtain ⟨a, t, b, ha, -, -, hencrypt, rfl, rfl⟩ := h.gate _ _ _ _ hmem
  obtain ⟨a', t', b', ha', -, -, hencrypt', rfl, rfl⟩ := h.gate _ _ _ _ hmem'
  obtain ⟨rfl, rfl⟩ := h.aimed_unique ha ha'
  rw [hencrypt] at hencrypt'
  cases hencrypt'
  have he := List.inj_on_of_nodup_map h.fresh hmem hmem' rfl
  cases he
  exact ⟨x, hx, hy⟩

theorem Decided.not_fatal_of_executed (h : Decided w m l r) {P : Except RegistryError Unit → Prop} (hP : Executed l P) :
    ¬ Cause w m l .fatal := by
  rintro ⟨a, t, ha, -, hbad⟩
  obtain ⟨a', t', ha', -, hkind, hencrypt⟩ := h.executed hP
  obtain ⟨rfl, rfl⟩ := h.aimed_unique ha ha'
  rcases hbad with hbad | ⟨e, hbad⟩
  · exact hkind hbad
  · exact hencrypt e hbad

theorem Decided.not_skipped_of_aimed (h : Decided w m l r) {a : Application} {t : Target} (ha : Aimed m l a t)
    (ht : t.enable = true) : ¬ Cause w m l .skipped := by
  rintro (⟨a', ha', henable⟩ | ⟨a', t', ha', henable⟩ | ⟨-, hnot⟩)
  · cases h.told_unique ha.1 ha'
    rw [ha.2.1] at henable
    cases henable
  · obtain ⟨rfl, rfl⟩ := h.aimed_unique ha ha'
    rw [ht] at henable
    cases henable
  · exact h.not_notThere ha hnot

theorem Decided.not_skipped_of_retryable (h : Decided w m l r) (hretry : Cause w m l .retryable) :
    ¬ Cause w m l .skipped := by
  rcases hretry with hfailed | ⟨hvia, hnot⟩ | hexecuted
  · rintro (⟨a, ha, henable⟩ | ⟨a, t, ha, -⟩ | ⟨-, hnot⟩)
    · obtain ⟨henable', -⟩ := h.came_of_found ha (fun _ _ h => by rcases h with h | ⟨e, -, h⟩ <;> cases h) hfailed
      rw [henable] at henable'
      cases henable'
    · exact h.not_failed ha hfailed
    · exact h.not_failed_of_notThere hnot hfailed
  · rintro (⟨a, ha, henable⟩ | ⟨a, t, ha, -⟩ | ⟨hvia', -⟩)
    · obtain ⟨henable', -⟩ := h.came_of_found ha (fun _ _ h => by cases h) hnot
      rw [henable] at henable'
      cases henable'
    · exact h.not_notThere ha hnot
    · rw [hvia] at hvia'
      cases hvia'
  · obtain ⟨a, t, ha, ht, -⟩ := h.executed hexecuted
    exact h.not_skipped_of_aimed ha ht

/-- What makes for a retry after the target was found is that it could not deliver. -/
theorem Decided.executed_of_retryable (h : Decided w m l r) {a : Application} {t : Target} (ha : Aimed m l a t)
    (hretry : Cause w m l .retryable) : Executed l fun x => ∃ e, x = .error e := by
  rcases hretry with hfailed | ⟨-, hnot⟩ | hexecuted
  · exact absurd hfailed (h.not_failed ha)
  · exact absurd hnot (h.not_notThere ha)
  · exact hexecuted

/-- **No two ends have their causes together.** -/
theorem Decided.cause_unique (h : Decided w m l r) {v v' : TaskRecord} (hv : Cause w m l v) (hv' : Cause w m l v') :
    v = v' := by
  have fatal_skipped (hf : Cause w m l .fatal) (hs : Cause w m l .skipped) : False := by
    obtain ⟨a, t, ha, ht, -⟩ := hf
    exact h.not_skipped_of_aimed ha ht hs
  have fatal_retryable (hf : Cause w m l .fatal) (hr : Cause w m l .retryable) : False := by
    have hf' := hf
    obtain ⟨a, t, ha, -⟩ := hf'
    exact h.not_fatal_of_executed (h.executed_of_retryable ha hr) hf
  have fatal_delivered (hf : Cause w m l .fatal) (hd : Cause w m l .delivered) : False := h.not_fatal_of_executed hd hf
  have skipped_delivered (hs : Cause w m l .skipped) (hd : Cause w m l .delivered) : False := by
    obtain ⟨a, t, ha, ht, -⟩ := h.executed hd
    exact h.not_skipped_of_aimed ha ht hs
  have retryable_delivered (hr : Cause w m l .retryable) (hd : Cause w m l .delivered) : False := by
    obtain ⟨a, t, ha, -⟩ := h.executed hd
    obtain ⟨x, ⟨e, rfl⟩, hx⟩ := h.executed_unique (h.executed_of_retryable ha hr) hd
    cases hx
  have retryable_skipped (hr : Cause w m l .retryable) (hs : Cause w m l .skipped) : False :=
    h.not_skipped_of_retryable hr hs
  cases v with
  | fatal =>
    cases v' with
    | fatal => rfl
    | skipped => exact (fatal_skipped hv hv').elim
    | retryable => exact (fatal_retryable hv hv').elim
    | delivered => exact (fatal_delivered hv hv').elim
  | skipped =>
    cases v' with
    | fatal => exact (fatal_skipped hv' hv).elim
    | skipped => rfl
    | retryable => exact (retryable_skipped hv' hv).elim
    | delivered => exact (skipped_delivered hv hv').elim
  | retryable =>
    cases v' with
    | fatal => exact (fatal_retryable hv' hv).elim
    | skipped => exact (retryable_skipped hv hv').elim
    | retryable => rfl
    | delivered => exact (retryable_delivered hv hv').elim
  | delivered =>
    cases v' with
    | fatal => exact (fatal_delivered hv' hv).elim
    | skipped => exact (skipped_delivered hv' hv).elim
    | retryable => exact (retryable_delivered hv' hv).elim
    | delivered => rfl

end

end Worker
end Courier
