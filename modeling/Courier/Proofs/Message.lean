import Courier.Message
import Courier.Proofs.Json.RoundTrip
import Courier.Proofs.Json.Yields
/-
Messages in their written form. A message whose numbers fit their fields is
read back as it was written, the internal flags included; and a reader of
messages only ever gives messages whose numbers fit.
-/

namespace Courier.Message

open Json (Field Whole Layout)
open Json.Decoder (Keeps)

/-- Whether the numbers of a message fit the fields they are written to. -/
structure Sized (m : Message) : Prop where
  html : Whole.i32.least ≤ m.html ∧ m.html ≤ Whole.i32.greatest
  priority : Whole.i32.least ≤ m.priority ∧ m.priority ≤ Whole.i32.greatest
  timestamp : Whole.i64.least ≤ m.timestamp ∧ m.timestamp ≤ Whole.i64.greatest
  ttl : Whole.i64.least ≤ m.ttl ∧ m.ttl ≤ Whole.i64.greatest

theorem i32_exact : Whole.i32.Exact := ⟨by decide, by decide⟩

theorem i64_exact : Whole.i64.Exact := ⟨by decide, by decide⟩

theorem sized_empty : Sized {} := ⟨by decide, by decide, by decide, by decide⟩

section

open Json.Decoder

theorem internalLayout_reads (i : Internal) :
    (internalLayout : Json.Decoder Internal).Reads (.object [("via_submit", .bool i.viaSubmit)]) 2 i :=
  record_reads "Internal" _ (.cons (map_reads _ (flag_reads i.viaSubmit)) .nil) (by decide) rfl

theorem layout_reads {m : Message} (h : m.Sized) : (layout : Json.Decoder Message).Reads m.toValue 4 m :=
  record_reads "Message" _
    (.cons (map_reads _ (text_reads m.token)) <|
      .cons (map_reads _ (text_reads m.user)) <|
      .cons (map_reads _ (text_reads m.message)) <|
      .cons (map_reads _ (text_reads m.attachment)) <|
      .cons (map_reads _ (text_reads m.attachmentBase64)) <|
      .cons (map_reads _ (text_reads m.attachmentType)) <|
      .cons (map_reads _ (text_reads m.device)) <|
      .cons (map_reads _ (whole_reads i32_exact h.html)) <|
      .cons (map_reads _ (whole_reads i32_exact h.priority)) <|
      .cons (map_reads _ (whole_reads i64_exact h.timestamp)) <|
      .cons (map_reads _ (text_reads m.title)) <|
      .cons (map_reads _ (whole_reads i64_exact h.ttl)) <|
      .cons (map_reads _ (text_reads m.url)) <|
      .cons (map_reads _ (text_reads m.urlTitle)) <|
      .cons (map_reads _ (internalLayout_reads m.internal)) .nil)
    (by decide) rfl

/-- **A message on the queue is the message that was put there**, the flag of the
submission route included. -/
theorem decode_encode {m : Message} (h : m.Sized) : decode m.encode = .ok m :=
  ofString_compact (layout_reads h) (by decide)

/-- A reader of messages gives messages whose numbers fit. -/
theorem layout_yields : (layout : Json.Decoder Message).Yields Sized := by
  have text {name : String} {set : String → Message → Message} (hset : ∀ v m, Sized m → Sized (set v m)) :
      Keeps Sized (.optional name Json.Layout.text set) :=
    optional_keeps (yields_true _) fun v m _ hm => hset v m hm
  refine record_yields sized_empty fun f hf => ?_
  simp only [List.mem_cons, List.not_mem_nil, or_false] at hf
  rcases hf with rfl | rfl | rfl | rfl | rfl | rfl | rfl | rfl | rfl | rfl | rfl | rfl | rfl | rfl | rfl
  iterate 7
    · exact text fun v m hm => ⟨hm.html, hm.priority, hm.timestamp, hm.ttl⟩
  · exact optional_keeps (whole_yields _) fun v m hv hm => ⟨hv, hm.priority, hm.timestamp, hm.ttl⟩
  · exact optional_keeps (whole_yields _) fun v m hv hm => ⟨hm.html, hv, hm.timestamp, hm.ttl⟩
  · exact optional_keeps (whole_yields _) fun v m hv hm => ⟨hm.html, hm.priority, hv, hm.ttl⟩
  · exact text fun v m hm => ⟨hm.html, hm.priority, hm.timestamp, hm.ttl⟩
  · exact optional_keeps (whole_yields _) fun v m hv hm => ⟨hm.html, hm.priority, hm.timestamp, hv⟩
  · exact text fun v m hm => ⟨hm.html, hm.priority, hm.timestamp, hm.ttl⟩
  · exact text fun v m hm => ⟨hm.html, hm.priority, hm.timestamp, hm.ttl⟩
  · exact optional_keeps (yields_true _) fun v m _ hm => ⟨hm.html, hm.priority, hm.timestamp, hm.ttl⟩

end

end Courier.Message
