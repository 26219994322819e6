import Courier.Queue.Task
import Courier.Proofs.Calendar.Reading
import Courier.Proofs.Json.RoundTrip
import Courier.Proofs.Json.Yields
import Courier.Proofs.Uuid
/-
Tasks in their written form. On a queue that keeps texts, a task is its text: so
it matters that the text gives the task back, and that a task tried again still
is the same one but for the count.
-/

namespace Courier

open Json (Whole)

namespace Task

/-- Whether a task is one: an identifier of 128 bits, a count of 32 bits, and a moment there is. -/
structure Sound (t : Task) : Prop where
  id : t.id.value < 2 ^ 128
  attempts : t.attempts < 2 ^ 32
  enqueuedAt : t.enqueuedAt.Sound

theorem u32_exact : Whole.u32.Exact := ⟨by decide, by decide⟩

section

open Json.Decoder

theorem uuid_reads {depth : Nat} {u : Uuid} (h : u.value < 2 ^ 128) :
    (Uuid.layout : Json.Decoder Uuid).Reads (.text u.text) depth u :=
  parsed_reads (by simp only [Uuid.parse_text h])

theorem moment_reads {depth : Nat} {t : Calendar.Moment} (h : t.Sound) :
    (Calendar.Moment.layout : Json.Decoder Calendar.Moment).Reads (.text t.text) depth t :=
  parsed_reads (by simp only [Calendar.Moment.text, String.toList_ofList, Calendar.Rfc3339.read_write h])

theorem layout_reads {t : Task} (h : t.Sound) : (layout : Json.Decoder Task).Reads t.toValue 2 t :=
  have hattempts : Whole.u32.least ≤ (t.attempts : Int) ∧ (t.attempts : Int) ≤ Whole.u32.greatest := by
    have := h.attempts
    simp only [Whole.u32]
    omega
  record_reads "Task" _
    (.cons (map_reads _ (uuid_reads h.id)) <|
      .cons (map_reads _ (text_reads t.kind)) <|
      .cons (map_reads _ (text_reads t.payload)) <|
      .cons (map_reads _ (whole_reads u32_exact hattempts)) <|
      .cons (map_reads _ (moment_reads h.enqueuedAt)) .nil)
    (by decide) rfl

/-- **A task is read back from its written form.** -/
theorem decode_encode {t : Task} (h : t.Sound) : decode t.encode = .ok t :=
  ofString_compact (layout_reads h) (by decide)

theorem uuid_yields : (Uuid.layout : Json.Decoder Uuid).Yields fun u => u.value < 2 ^ 128 := by
  refine parsed_yields fun s u h => ?_
  split at h
  · next v hv =>
    cases h
    exact Uuid.parse_lt hv
  · cases h

theorem moment_yields : (Calendar.Moment.layout : Json.Decoder Calendar.Moment).Yields Calendar.Moment.Sound := by
  refine parsed_yields fun s t h => ?_
  split at h
  · next u hu =>
    cases h
    exact Calendar.Rfc3339.read_sound hu
  · cases h

theorem layout_yields : (layout : Json.Decoder Task).Yields Sound := by
  have hstart : Sound { id := ⟨0⟩, kind := "", payload := "", enqueuedAt := .epoch } :=
    ⟨by decide, by decide, ⟨by decide, by decide, by decide⟩⟩
  refine record_yields hstart fun f hf => ?_
  simp only [List.mem_cons, List.not_mem_nil, or_false] at hf
  rcases hf with rfl | rfl | rfl | rfl | rfl
  · exact required_keeps uuid_yields fun v t hv ht => ⟨hv, ht.attempts, ht.enqueuedAt⟩
  · exact required_keeps (yields_true _) fun v t _ ht => ⟨ht.id, ht.attempts, ht.enqueuedAt⟩
  · exact required_keeps (yields_true _) fun v t _ ht => ⟨ht.id, ht.attempts, ht.enqueuedAt⟩
  · refine optional_keeps (whole_yields _) fun v t hv ht => ⟨ht.id, ?_, ht.enqueuedAt⟩
    have hgreatest : v ≤ 4294967295 := hv.2
    show v.toNat < 2 ^ 32
    omega
  · exact required_keeps moment_yields fun v t hv ht => ⟨ht.id, ht.attempts, hv⟩

/-- **What is read as a task is one.** -/
theorem decode_sound {s : String} {t : Task} (h : decode s = .ok t) : t.Sound := run_yields layout_yields h

end

/-! ## Attempts -/

/-- The task with another count of attempts. -/
def withAttempts (t : Task) (n : Nat) : Task := { t with attempts := n }

@[simp] theorem withAttempts_attempts (t : Task) : t.withAttempts t.attempts = t := rfl

@[simp] theorem withAttempts_withAttempts (t : Task) (n k : Nat) : (t.withAttempts n).withAttempts k = t.withAttempts k :=
  rfl

theorem next_eq (t : Task) : t.next = t.withAttempts ((t.attempts + 1) % 2 ^ 32) := rfl

/-- Short of the greatest number of attempts, the next attempt is one more. -/
theorem next_of_lt {t : Task} (h : t.attempts < maxAttempts) : t.next = t.withAttempts (t.attempts + 1) := by
  have hmod : (t.attempts + 1) % 2 ^ 32 = t.attempts + 1 := Nat.mod_eq_of_lt (by
    simp only [maxAttempts] at h
    omega)
  rw [next_eq, hmod]

theorem Sound.withAttempts {t : Task} (h : t.Sound) {n : Nat} (hn : n < 2 ^ 32) : (t.withAttempts n).Sound :=
  ⟨h.id, hn, h.enqueuedAt⟩

theorem Sound.next {t : Task} (h : t.Sound) : t.next.Sound := h.withAttempts (Nat.mod_lt _ (by omega))

end Task

/-! ## Dead letters -/

namespace DeadLetter

open Json.Decoder

/-- Whether a dead letter is one: with a task that is one, given up at a moment there is. -/
structure Sound (l : DeadLetter) : Prop where
  task : l.task.Sound
  failedAt : l.failedAt.Sound

theorem layout_reads {l : DeadLetter} (h : l.Sound) : (layout : Json.Decoder DeadLetter).Reads l.toValue 4 l :=
  record_reads "DeadLetter" _
    (.cons (map_reads _ (Task.layout_reads h.task)) <|
      .cons (map_reads _ (text_reads l.reason)) <|
      .cons (map_reads _ (Task.moment_reads h.failedAt)) .nil)
    (by decide) rfl

/-- **A dead letter is read back from its written form.** -/
theorem decode_encode {l : DeadLetter} (h : l.Sound) : decode l.encode = .ok l :=
  ofString_compact (layout_reads h) (by decide)

end DeadLetter
end Courier
