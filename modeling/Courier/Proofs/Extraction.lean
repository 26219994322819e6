import Courier.Extraction
import Courier.Proofs.Message
/-
What extraction can put into a message: whatever the templates and the webhook
are, the numbers of the message fit their fields, as long as the reader of dates
gives seconds of 64 bits.
-/

namespace Courier

namespace Number

theorem intWithin?_some {lo hi n : Int} {cs : List Char} (h : intWithin? lo hi cs = some n) : lo ≤ n ∧ n ≤ hi := by
  unfold intWithin? at h
  split at h
  · split at h
    · next hn =>
      cases h
      exact hn
    · cases h
  · cases h

end Number

namespace Extraction

open Json (Whole)

/-- Whether a reader of dates gives seconds of 64 bits. -/
def Dates (date : String → Option Int) : Prop :=
  ∀ text n, date text = some n → Whole.i64.least ≤ n ∧ n ≤ Whole.i64.greatest

theorem priorityOf_small (s : String) : -2 ≤ priorityOf s ∧ priorityOf s ≤ 2 := by
  simp only [priorityOf]
  split
  · assumption
  · omega

theorem ttlOf_sized (s : String) : Whole.i64.least ≤ ttlOf s ∧ ttlOf s ≤ Whole.i64.greatest := by
  unfold ttlOf Whole.i64
  cases h : Number.intWithin? (-2 ^ 63) (2 ^ 63 - 1) (Text.trim s.toList) with
  | none => decide
  | some n =>
    have hn := Number.intWithin?_some h
    simp only [Option.getD_some]
    omega

theorem timestampOf?_sized {date : String → Option Int} (hdate : Dates date) {s : String} {n : Int}
    (h : timestampOf? date s = some n) : Whole.i64.least ≤ n ∧ n ≤ Whole.i64.greatest := by
  unfold timestampOf? at h
  dsimp only at h
  split at h
  · cases h
  · split at h
    · next hn =>
      cases h
      exact Number.intWithin?_some hn
    · exact hdate _ n h

/-- Filling the field for markup sets it to 0 or 1, or leaves it. -/
theorem fill_html (date : String → Option Int) (m : Message) (text : String) :
    ∃ n, (n = 0 ∨ n = 1 ∨ n = m.html) ∧ fill date m .html text = { m with html := n } := by
  simp only [fill]
  split
  · exact ⟨0, .inl rfl, rfl⟩
  · split
    · exact ⟨1, .inr (.inl rfl), rfl⟩
    · exact ⟨m.html, .inr (.inr rfl), rfl⟩

/-- Filling the field for the time sets it to a time that can be read, or leaves it. -/
theorem fill_timestamp (date : String → Option Int) (m : Message) (text : String) :
    ∃ n, (timestampOf? date text = some n ∨ n = m.timestamp) ∧ fill date m .timestamp text = { m with timestamp := n } := by
  simp only [fill]
  split
  · next n hn => exact ⟨n, .inl hn, rfl⟩
  · exact ⟨m.timestamp, .inr rfl, rfl⟩

theorem fill_sized {date : String → Option Int} (hdate : Dates date) {m : Message} (hm : m.Sized)
    (field : MappedField) (text : String) : (fill date m field text).Sized := by
  cases field with
  | attachment | attachmentBase64 | attachmentType | device | message | title | url | urlTitle =>
    exact ⟨hm.html, hm.priority, hm.timestamp, hm.ttl⟩
  | html =>
    obtain ⟨n, hn, hfilled⟩ := fill_html date m text
    rw [hfilled]
    refine ⟨?_, hm.priority, hm.timestamp, hm.ttl⟩
    rcases hn with rfl | rfl | rfl
    · exact (by decide : Whole.i32.least ≤ 0 ∧ 0 ≤ Whole.i32.greatest)
    · exact (by decide : Whole.i32.least ≤ 1 ∧ 1 ≤ Whole.i32.greatest)
    · exact hm.html
  | priority =>
    have hsmall := priorityOf_small text
    refine ⟨hm.html, ?_, hm.timestamp, hm.ttl⟩
    simp only [fill, Whole.i32]
    omega
  | ttl => exact ⟨hm.html, hm.priority, hm.timestamp, ttlOf_sized text⟩
  | timestamp =>
    obtain ⟨n, hn, hfilled⟩ := fill_timestamp date m text
    rw [hfilled]
    refine ⟨hm.html, hm.priority, ?_, hm.ttl⟩
    rcases hn with hread | rfl
    · exact timestampOf?_sized hdate hread
    · exact hm.timestamp

section

variable {date : String → Option Int} {P : Message → Prop} (f : CustomFormat) (body : Json.Value)

/-- What filling a field keeps is kept whether its template finds something or not. -/
theorem fillFrom_keeps (keeps : ∀ m field text, P m → P (fill date m field text)) {m : Message} (hm : P m)
    (field : MappedField) : P (fillFrom date f body m field) := by
  unfold fillFrom
  split
  · exact keeps m field _ hm
  · exact hm

/-- What holds of an empty message, and is kept by filling fields, holds of what is extracted. -/
theorem extract_keeps (empty : P {}) (keeps : ∀ m field text, P m → P (fill date m field text)) :
    P (extract date f body).1 := by
  have hfold : ∀ (fields : List MappedField) (m : Message), P m → P (fields.foldl (fillFrom date f body) m) := by
    intro fields
    induction fields with
    | nil => exact fun m hm => hm
    | cons field fields ih => exact fun m hm => ih _ (fillFrom_keeps f body keeps hm field)
  exact hfold _ _ empty

end

/-- **What is extracted can be put on the queue**: its numbers fit, whatever the webhook. -/
theorem extract_sized {date : String → Option Int} (hdate : Dates date) (f : CustomFormat) (body : Json.Value) :
    (extract date f body).1.Sized :=
  extract_keeps f body Message.sized_empty fun _ field text hm => fill_sized hdate hm field text

end Extraction
end Courier
