import Courier.Proofs.Outcome
import Courier.Proofs.Worker.Course
/-
What handling a task comes to, as the queue is told. A task that carries no message
is given up; the other ones end as the delivery of their message does. How a task
ended is counted afterwards, which changes nothing.
-/

namespace Courier.Worker

open Procedure

/-- Whether a task carries a message. -/
def Carries (t : Task) (m : Message) : Prop := t.kind = Task.messageKind ∧ Message.decode t.payload = .ok m

/-- Whether a task is none that carries a message. -/
def Malformed (t : Task) : Prop := t.kind ≠ Task.messageKind ∨ ∃ e, Message.decode t.payload = .error e

theorem carries_of_decode {t : Task} {m : Message} (h : decode t = .ok m) : Carries t m := by
  unfold decode at h
  split at h
  · cases h
  · next hkind => exact ⟨not_not.1 hkind, ok_of_mapError h⟩

theorem malformed_of_decode {t : Task} {e : TaskError} (h : decode t = .error e) :
    Malformed t ∧ ∃ text, e = .malformed text := by
  unfold decode at h
  split at h
  · next hkind =>
    cases h
    exact ⟨.inl hkind, _, rfl⟩
  · obtain ⟨e', hdecode, rfl⟩ := error_of_mapError h
    exact ⟨.inr ⟨e', hdecode⟩, _, rfl⟩

theorem Carries.not_malformed {t : Task} {m : Message} (h : Carries t m) : ¬ Malformed t := by
  rintro (hkind | ⟨e, he⟩)
  · exact hkind h.1
  · rw [h.2] at he
    cases he

theorem Carries.unique {t : Task} {m m' : Message} (h : Carries t m) (h' : Carries t m') : m = m' :=
  Except.ok.inj (h.2.symm.trans h'.2)

section

variable {w : Worker} {m : Message} {l : WorkerLog} {k : TaskRecord} {y : Option Unit}

theorem of_record {q : WorkerAsk} (hq : ∀ k, q ≠ .record k) {x : Option q.Answer}
    (h : (⟨q, x⟩ : (q : WorkerAsk) × Option q.Answer) ∈ l ++ [⟨.record k, y⟩]) :
    (⟨q, x⟩ : (q : WorkerAsk) × Option q.Answer) ∈ l := by
  rcases List.mem_append.1 h with h | h
  · exact h
  · exact absurd (Sigma.mk.inj (List.mem_singleton.1 h)).1 (hq k)

theorem told_record {c : RepositoryCall} {x : c.Timely} : Told (l ++ [⟨.record k, y⟩]) c x ↔ Told l c x :=
  ⟨fun h => of_record (by simp) h, fun h => List.mem_append_left _ h⟩

theorem aimed_record {a : Application} {t : Target} : Aimed m (l ++ [⟨.record k, y⟩]) a t ↔ Aimed m l a t := by
  simp only [Aimed, Found, told_record]

theorem executed_record {P : Except RegistryError Unit → Prop} :
    Executed (l ++ [⟨.record k, y⟩]) P ↔ Executed l P :=
  ⟨fun ⟨id, m, args, x, hx, h⟩ => ⟨id, m, args, x, hx, of_record (by simp) h⟩,
    fun ⟨id, m, args, x, hx, h⟩ => ⟨id, m, args, x, hx, List.mem_append_left _ h⟩⟩

theorem handed_record : Handed (l ++ [⟨.record k, y⟩]) ↔ Handed l :=
  ⟨fun ⟨id, m, args, x, h⟩ => ⟨id, m, args, x, of_record (by simp) h⟩,
    fun ⟨id, m, args, x, h⟩ => ⟨id, m, args, x, List.mem_append_left _ h⟩⟩

/-- Counting how a task ended has no part in how it ends. -/
theorem cause_record (v : TaskRecord) : Cause w m (l ++ [⟨.record k, y⟩]) v ↔ Cause w m l v := by
  cases v with
  | fatal => simp only [Cause, Aimed, Found, told_record]
  | skipped => simp only [Cause, Aimed, Found, NotThere, Came, told_record]
  | retryable => simp only [Cause, Found, NotThere, Failed, Came, told_record, executed_record]
  | delivered => simp only [Cause, executed_record]

end

/-- What handling a task comes to, as the queue is told, by what was asked and answered. -/
structure Verdict (w : Worker) (t : Task) (l : WorkerLog) (r : Option (Except TaskFailure Unit)) : Prop where
  once : (l.countP fun x => x.1.isDeliver) ≤ 1
  gate : ∀ id m' args y, (⟨.deliver id m' args, y⟩ : (q : WorkerAsk) × Option q.Answer) ∈ l → ∃ m a g b,
    Carries t m ∧ Aimed m l a g ∧ g.enable = true ∧ TargetKind.ofName? g.kind ≠ none ∧
      Encryption.encrypt w.cipher a.encryptionPolicy m = .ok (m', b) ∧ id = g.id ∧ args = g.mergeArgs a.targetArgs
  order : ∀ id y, (⟨.store (.target id), y⟩ : (q : WorkerAsk) × Option q.Answer) ∈ l →
    ∃ m a, Carries t m ∧ Found m l a ∧ a.enable = true ∧ id = a.target
  fatal : ∀ x, r = some x →
    ((∃ reason, x = .error (.fatal reason)) ↔ Malformed t ∨ ∃ m, Carries t m ∧ Cause w m l .fatal)
  skipped : ∀ x, r = some x → (x = .ok () ∧ ¬ Handed l ↔ ∃ m, Carries t m ∧ Cause w m l .skipped)
  retryable : ∀ x, r = some x →
    ((∃ reason, x = .error (.retry reason)) ↔ ∃ m, Carries t m ∧ Cause w m l .retryable)
  delivered : ∀ x, r = some x → (x = .ok () ∧ Handed l ↔ ∃ m, Carries t m ∧ Cause w m l .delivered)
  sentOnce : (l.countP fun x => x.1.isSent) ≤ 1
  sent : ∀ token y, (⟨.store (.increment token .sent), y⟩ : (q : WorkerAsk) × Option q.Answer) ∈ l →
    ∃ m, Carries t m ∧ token = m.token ∧ m.isViaSubmit = false ∧ Cause w m l .delivered
  counted : ∀ x, r = some x → ∀ m, Carries t m → m.isViaSubmit = false → Cause w m l .delivered →
    ∃ y, (⟨.store (.increment m.token .sent), y⟩ : (q : WorkerAsk) × Option q.Answer) ∈ l

/-- How the queue is told of an end. -/
def reply : Except TaskError TaskOutcome → Except TaskFailure Unit
  | .ok _ => .ok ()
  | .error e => .error e.failure

theorem reply_fatal (v : Except TaskError TaskOutcome) :
    (∃ reason, reply v = .error (.fatal reason)) ↔ TaskRecord.of v = .fatal := by
  cases v with
  | ok o => cases o <;> simp [reply, TaskRecord.of]
  | error e => cases h : e.isRetryable <;> simp [reply, TaskRecord.of, TaskError.failure, h]

theorem reply_retry (v : Except TaskError TaskOutcome) :
    (∃ reason, reply v = .error (.retry reason)) ↔ TaskRecord.of v = .retryable := by
  cases v with
  | ok o => cases o <;> simp [reply, TaskRecord.of]
  | error e => cases h : e.isRetryable <;> simp [reply, TaskRecord.of, TaskError.failure, h]

theorem reply_ok (v : Except TaskError TaskOutcome) :
    reply v = .ok () ↔ TaskRecord.of v = .skipped ∨ TaskRecord.of v = .delivered := by
  cases v with
  | ok o => cases o <;> simp [reply, TaskRecord.of]
  | error e => cases h : e.isRetryable <;> simp [reply, TaskRecord.of, h]

/-- A log with nothing in it but how a malformed task is counted. -/
theorem Verdict.malformed {w : Worker} {t : Task} (ht : Malformed t) {k : TaskRecord} {y : Option Unit}
    {r : Option (Except TaskFailure Unit)} (hr : ∀ x, r = some x → ∃ reason, x = .error (.fatal reason)) :
    Verdict w t [⟨.record k, y⟩] r where
  once := by simp [WorkerAsk.isDeliver]
  gate id m' args y hy := by cases List.mem_singleton.1 hy
  order id y hy := by cases List.mem_singleton.1 hy
  fatal x hx := ⟨fun _ => .inl ht, fun _ => hr x hx⟩
  skipped x hx := by
    obtain ⟨reason, rfl⟩ := hr x hx
    constructor
    · rintro ⟨h, -⟩
      cases h
    · rintro ⟨m, hm, -⟩
      exact absurd ht hm.not_malformed
  retryable x hx := by
    obtain ⟨reason, rfl⟩ := hr x hx
    constructor
    · rintro ⟨_, h⟩
      cases h
    · rintro ⟨m, hm, -⟩
      exact absurd ht hm.not_malformed
  delivered x hx := by
    obtain ⟨reason, rfl⟩ := hr x hx
    constructor
    · rintro ⟨h, -⟩
      cases h
    · rintro ⟨m, hm, -⟩
      exact absurd ht hm.not_malformed
  sentOnce := by simp [WorkerAsk.isSent]
  sent token y hy := by cases List.mem_singleton.1 hy
  counted x hx m hm := absurd ht hm.not_malformed

/-- The cause that there is tells the end. -/
theorem Decided.cause_iff {w : Worker} {m : Message} {l : WorkerLog} {e : Except TaskError TaskOutcome}
    (h : Decided w m l (some e)) (k : TaskRecord) : TaskRecord.of e = k ↔ Cause w m l k :=
  ⟨fun he => he ▸ h.cause e rfl, fun hk => h.cause_unique (h.cause e rfl) hk⟩

theorem Decided.not_handed_of_skipped {w : Worker} {m : Message} {l : WorkerLog}
    {r : Option (Except TaskError TaskOutcome)} (h : Decided w m l r) (hs : Cause w m l .skipped) : ¬ Handed l := by
  rintro ⟨id, m', args, y, hy⟩
  obtain ⟨a, t, b, ha, ht, -⟩ := h.gate id m' args y hy
  exact h.not_skipped_of_aimed ha ht hs

theorem Executed.handed {l : WorkerLog} {P : Except RegistryError Unit → Prop} (h : Executed l P) : Handed l := by
  obtain ⟨id, m, args, x, -, hx⟩ := h
  exact ⟨id, m, args, some x, hx⟩

/-- What a delivery came to is what the queue is told. -/
theorem Decided.verdict {w : Worker} {t : Task} {m : Message} {l : WorkerLog} {v : Option (Except TaskError TaskOutcome)}
    (h : Decided w m l v) (hm : Carries t m) {r : Option (Except TaskFailure Unit)}
    (hr : ∀ x, r = some x → ∃ e, v = some e ∧ x = reply e) : Verdict w t l r where
  once := h.once
  gate id m' args y hy := by
    obtain ⟨a, g, b, hg⟩ := h.gate id m' args y hy
    exact ⟨m, a, g, b, hm, hg⟩
  order id y hy := by
    obtain ⟨a, ha⟩ := h.order id y hy
    exact ⟨m, a, hm, ha⟩
  fatal x hx := by
    obtain ⟨e, rfl, rfl⟩ := hr x hx
    rw [reply_fatal, h.cause_iff]
    refine ⟨fun hc => .inr ⟨m, hm, hc⟩, fun hc => ?_⟩
    rcases hc with ht | ⟨m', hm', hc⟩
    · exact absurd ht hm.not_malformed
    · exact hm.unique hm' ▸ hc
  skipped x hx := by
    obtain ⟨e, rfl, rfl⟩ := hr x hx
    rw [reply_ok, h.cause_iff, h.cause_iff]
    refine ⟨fun ⟨hc, hnot⟩ => ?_, fun ⟨m', hm', hc⟩ => ?_⟩
    · rcases hc with hc | hc
      · exact ⟨m, hm, hc⟩
      · exact absurd hc.handed hnot
    · obtain rfl := hm.unique hm'
      exact ⟨.inl hc, h.not_handed_of_skipped hc⟩
  retryable x hx := by
    obtain ⟨e, rfl, rfl⟩ := hr x hx
    rw [reply_retry, h.cause_iff]
    exact ⟨fun hc => ⟨m, hm, hc⟩, fun ⟨m', hm', hc⟩ => hm.unique hm' ▸ hc⟩
  delivered x hx := by
    obtain ⟨e, rfl, rfl⟩ := hr x hx
    rw [reply_ok, h.cause_iff, h.cause_iff]
    refine ⟨fun ⟨hc, hhanded⟩ => ?_, fun ⟨m', hm', hc⟩ => ?_⟩
    · rcases hc with hc | hc
      · exact absurd hhanded (h.not_handed_of_skipped hc)
      · exact ⟨m, hm, hc⟩
    · obtain rfl := hm.unique hm'
      exact ⟨.inr hc, hc.handed⟩
  sentOnce := h.sentOnce
  sent token y hy := ⟨m, hm, h.sent token y hy⟩
  counted x hx m' hm' hvia hc := by
    obtain rfl := hm.unique hm'
    obtain ⟨e, rfl, rfl⟩ := hr x hx
    exact h.counted e rfl ((h.cause_iff _).2 hc) hvia

/-- Counting how a task ended does not change how it ended. -/
theorem Verdict.recorded {w : Worker} {t : Task} {l : WorkerLog} {r : Option (Except TaskFailure Unit)}
    (h : Verdict w t l r) (k : TaskRecord) (y : Option Unit) : Verdict w t (l ++ [⟨.record k, y⟩]) r where
  once := by
    simp only [List.countP_append, List.countP_singleton, WorkerAsk.isDeliver]
    exact h.once
  gate id m' args z hz := by
    obtain ⟨m, a, g, b, hm, hg, hrest⟩ := h.gate id m' args z (of_record (by simp) hz)
    exact ⟨m, a, g, b, hm, aimed_record.2 hg, hrest⟩
  order id z hz := by
    obtain ⟨m, a, hm, ha, hrest⟩ := h.order id z (of_record (by simp) hz)
    exact ⟨m, a, hm, told_record.2 ha, hrest⟩
  fatal x hx := by simpa only [cause_record] using h.fatal x hx
  skipped x hx := by simpa only [cause_record, handed_record] using h.skipped x hx
  retryable x hx := by simpa only [cause_record] using h.retryable x hx
  delivered x hx := by simpa only [cause_record, handed_record] using h.delivered x hx
  sentOnce := by
    simp only [List.countP_append, List.countP_singleton, WorkerAsk.isSent]
    exact h.sentOnce
  sent token z hz := by simpa only [cause_record] using h.sent token z (of_record (by simp) hz)
  counted x hx m hm hvia hc := by
    obtain ⟨z, hz⟩ := h.counted x hx m hm hvia ((cause_record _).1 hc)
    exact ⟨z, List.mem_append_left _ hz⟩

/-- **Handling a task ends as its message, the store, encryption and the target decide**, and in this order. -/
theorem handle_decides {w : Worker} {t : Task} {l : WorkerLog} {r : Option (Except TaskFailure Unit)}
    (h : (w.handle t).Runs l r) : Verdict w t l r := by
  unfold handle at h
  dsimp only at h
  split at h
  · next m hm =>
    have hm := carries_of_decode hm
    rcases runs_bind h with ⟨h₁, rfl⟩ | ⟨e, l₁, l₂, rfl, h₁, h₂⟩
    · exact (process_decided h₁).verdict hm (by simp)
    rcases runs_ask h₂ with ⟨rfl, rfl⟩ | ⟨y, l₃, rfl, h₃⟩
    · exact ((process_decided h₁).verdict hm (by simp)).recorded _ none
    · cases e with
      | ok o =>
        obtain ⟨rfl, rfl⟩ := runs_result h₃
        exact ((process_decided h₁).verdict hm fun x hx => ⟨_, rfl, (Option.some.inj hx).symm⟩).recorded _ (some y)
      | error e =>
        obtain ⟨rfl, rfl⟩ := runs_result h₃
        exact ((process_decided h₁).verdict hm fun x hx => ⟨_, rfl, (Option.some.inj hx).symm⟩).recorded _ (some y)
  · next e he =>
    obtain ⟨ht, text, rfl⟩ := malformed_of_decode he
    rcases runs_ask h with ⟨rfl, rfl⟩ | ⟨y, l₁, rfl, h₁⟩
    · exact .malformed ht (by simp)
    · obtain ⟨rfl, rfl⟩ := runs_result h₁
      exact .malformed ht fun x hx => ⟨_, (Option.some.inj hx).symm⟩

/-- A worker, a task with a message in it, and surroundings in which all is well. -/
def sample : Worker := { cipher := ⟨Unit, fun _ => .ok (), fun text _ => text⟩ }

def sampleTask : Task where
  id := ⟨7⟩
  kind := Task.messageKind
  payload := "\x7b\"token\":\"a\",\"user\":\"u\",\"message\":\"hi\"\x7d"
  enqueuedAt := .epoch

def sampleAnswer : (q : WorkerAsk) → q.Answer
  | .store (.application _ token) => some (.ok { token, target := "t" })
  | .store (.target id) => some (.ok { id, kind := "xmpp" })
  | .store (.userOf _) | .store .targets => none
  | .store (.increment _ _) | .store (.saveInput _ _) | .store .health => some (.ok ())
  | .deliver _ _ _ => .ok ()
  | .record _ => ()

theorem sample_decided : ∃ l, (sample.handle sampleTask).Runs l (some (.ok ())) ∧ Handed l ∧
    Verdict sample sampleTask l (some (.ok ())) := by
  have hruns : (sample.handle sampleTask).Runs ((sample.handle sampleTask).logWith sampleAnswer) (some (.ok ())) :=
    runs_logWith sampleAnswer (sample.handle sampleTask)
  have hhanded : ((sample.handle sampleTask).logWith sampleAnswer).any (·.1.isDeliver) = true := by rfl
  obtain ⟨⟨q, x⟩, hx, hq⟩ := List.any_eq_true.1 hhanded
  refine ⟨_, hruns, ?_, handle_decides hruns⟩
  cases q with
  | deliver id m args => exact ⟨id, m, args, x, hx⟩
  | store c => cases hq
  | record k => cases hq

end Courier.Worker
