import Courier.Proofs.Json.RoundTrip
import Courier.Proofs.Service.Statuses
import Courier.Proofs.Text.Utf8
import Courier.Proofs.Uuid
/-
The identifier of a request. It is chosen before anything else is done with the request,
and read again from the request by whoever answers; the two agree since a request that
brings no identifier of use is given one that is. So the response has one identifier, which
is told in the body as well, whether the message was taken in or refused.

The endpoints take the first value of the header and so does the choice. Were it not for
that, a second value could be told in the body and the first one in the header.
-/

namespace Courier

namespace Headers

variable {hs : Headers} {name : String} {value : List UInt8}

/-- All values of a header, in their order. -/
def values (hs : Headers) (name : String) : List (List UInt8) := (hs.filter fun h => h.1 == name).map (·.2)

theorem head?_values : (values hs name).head? = get? hs name := by
  rw [values, List.head?_map, List.head?_filter, get?]

theorem values_cons (k : String × List UInt8) (hs : Headers) :
    values (k :: hs) name = if k.1 = name then k.2 :: values hs name else values hs name := by
  split
  · next h => simp [values, h]
  · next h => simp [values, h]

theorem values_eq_nil : values hs name = [] ↔ ∀ k ∈ hs, k.1 ≠ name := by
  simp [values, List.filter_eq_nil_iff]

theorem values_append (hs hs' : Headers) : values (hs ++ hs') name = values hs name ++ values hs' name := by
  simp [values]

theorem values_replace (h : ∃ k ∈ hs, k.1 = name) : values (set.replace name value hs) name = [value] := by
  induction hs with
  | nil => simp at h
  | cons k hs ih =>
    unfold set.replace
    split
    · -- the values that follow are taken away
      have hrest : values (hs.filter fun k => k.1 != name) name = [] :=
        values_eq_nil.2 fun k hk => by simpa using (List.mem_filter.1 hk).2
      rw [values_cons, if_pos rfl, hrest]
    · next hk =>
      have hk : k.1 ≠ name := by simpa using hk
      rw [values_cons, if_neg hk]
      exact ih (by simpa [hk] using h)

/-- A header that was set has the one value, however many it had before. -/
theorem values_set : values (set hs name value) name = [value] := by
  unfold set
  split
  · next h => exact values_replace (by simpa using h)
  · next h =>
    have hnone : values hs name = [] := values_eq_nil.2 fun k hk hname => h (List.any_eq_true.2 ⟨k, hk, beq_iff_eq.2 hname⟩)
    rw [values_append, hnone, values_cons, if_pos rfl]
    rfl

theorem get?_set_self : get? (set hs name value) name = some value := by
  rw [← head?_values, values_set]
  rfl

/-- Whether all of a value can be shown: it is of visible characters, spaces and tabs. -/
def Readable (value : List UInt8) : Prop := ∀ b ∈ value, 32 ≤ b ∧ b < 127 ∨ b = 9

theorem Readable.exists_encode (h : Readable value) : ∃ text, Text.encode text = value :=
  Text.exists_encode fun b hb => by
    rcases h b hb with ⟨-, hb⟩ | rfl
    · exact UInt8.lt_trans hb (by decide)
    · decide

theorem all_iff_readable : (value.all fun b => (32 ≤ b && b < 127) || b == 9) = true ↔ Readable value := by
  simp [Readable, List.all_eq_true]

instance (value : List UInt8) : Decidable (Readable value) := decidable_of_iff _ all_iff_readable

/-- A value is shown as the text that it is the octets of. -/
theorem shown?_eq_some_iff {text : String} : shown? value = some text ↔ Readable value ∧ Text.encode text = value := by
  unfold shown?
  rw [Option.ite_none_right_eq_some, all_iff_readable]
  refine and_congr_right fun h => ?_
  obtain ⟨t, rfl⟩ := h.exists_encode
  rw [Text.decode?_encode]
  exact ⟨fun h => by rw [Option.some.inj h], fun h => congrArg some (Text.encode_inj h).symm⟩

end Headers

namespace Uuid

/-- The written form of an identifier is of characters that can be shown. -/
theorem readable_text (u : Uuid) : Headers.Readable (Text.encode u.text) := by
  have hdigit : ∀ d < 16, Headers.Readable (String.utf8EncodeChar (Text.hexDigit d)) := by decide
  have hhyphen : Headers.Readable (String.utf8EncodeChar '-') := by decide
  intro b hb
  rw [text, Text.encode_ofList, List.mem_flatMap] at hb
  obtain ⟨c, hc, hb⟩ := hb
  rcases mem_hyphenate hc with rfl | hc
  · exact hhyphen b hb
  · obtain ⟨d, hd, rfl⟩ := mem_hexDigits hc
    exact hdigit d hd b hb

end Uuid

/-! ## Envelopes -/

namespace Envelope

open Json (Value)

/-- Whether a body is an envelope, of a message that was taken in or of one that was refused, with an identifier in it. -/
def Names (body id : String) : Prop := body = (accepted id).compact ∨ ∃ error, body = (rejected error id).compact

/-- What stands last in a record is read from it, if the rest can be read. -/
theorem read_last (ms : List (String × Value)) (hms : ∀ m ∈ ms, Json.Decoder.value.Reads m.2 0 m.2) (key text : String) :
    ∃ v, Json.parse (Value.object (ms ++ [(key, .text text)])).compact = .ok v ∧ v.get? key = some (.text text) := by
  have hall : ∀ m ∈ ms ++ [(key, Value.text text)], Json.Decoder.value.Reads m.2 0 m.2 := fun m hm => by
    rcases List.mem_append.1 hm with hm | hm
    · exact hms m hm
    · rw [List.mem_singleton.1 hm]
      exact Json.Decoder.value_text text
  refine ⟨_, Json.Decoder.ofString_compact (Json.Decoder.object_reads hall) (by decide), ?_⟩
  rw [Value.get?, Json.Object.ofMembers, List.foldl_append]
  exact Json.Object.get?_insert_self _ key (.text text)

/-- Whatever is told of a message, its identifier can be read from the envelope. -/
theorem Names.read {body id : String} (h : Names body id) :
    ∃ v, Json.parse body = .ok v ∧ v.get? "request" = some (.text id) := by
  have hstatus {n : Nat} (hn : n ≤ 1) : Json.Decoder.value.Reads (.int n) 0 (.int n) :=
    Json.Decoder.value_natural (Nat.le_trans hn (by decide))
  rcases h with rfl | ⟨error, rfl⟩
  · exact read_last [("status", .int 1)] (by simpa using hstatus (Nat.le_refl 1)) "request" id
  · exact read_last [("status", .int 0), ("error", .text error)]
      (by simpa using ⟨hstatus (Nat.zero_le 1), Json.Decoder.value_text error⟩) "request" id

end Envelope

namespace Service

open Procedure

variable {s : Service} {r : HttpRequest} {route : Route} {segment : Option String}
  {P : (q : ServiceAsk) → q.Answer → Prop} {p : HttpResponse} {id : String}

/-! ## The body -/

/-- What the body of a response tells of an identifier: it is an envelope, or nothing that could be taken for one. -/
structure Tells (p : HttpResponse) (id : String) : Prop where
  envelope : p.contentType = some "application/json" → Envelope.Names p.body id
  read : ∀ v, Json.parse p.body = .ok v → v.get? "request" = some (.text id)

theorem tells_envelope {status : Nat} {v : Json.Value} (h : Envelope.Names v.compact id) : Tells (.json status v) id where
  envelope _ := h
  read v' hv' := by
    obtain ⟨w, hw, hid⟩ := h.read
    obtain rfl := Except.ok.inj (hw.symm.trans hv')
    exact hid

theorem tells_plain {status : Nat} {text : String} (h : (Json.parse text).toOption = none) :
    Tells (.plain status text) id where
  envelope htype := by
    have hplain : (HttpResponse.plain 0 "").contentType ≠ some "application/json" := by decide +kernel
    exact absurd htype hplain
  read v hv := by
    have hv : Json.parse text = .ok v := hv
    rw [hv] at h
    cases h

/-- Headers other than the one that says what the body is do not change what it tells. -/
theorem Tells.set (h : Tells p id) {name : String} (hne : Headers.contentType ≠ name) (value : List UInt8) :
    Tells { p with headers := Headers.set p.headers name value } id where
  envelope htype := by
    unfold HttpResponse.contentType HttpResponse.shown? at htype
    rw [Headers.get?_set hne] at htype
    exact h.envelope htype
  read := h.read

/-- An endpoint tells the identifier that it finds in the request, even if it takes nothing else of it. -/
theorem messages_tells (h : (s.messages r route segment).Gives P p) : Tells p (requestId r) := by
  unfold messages at h
  split at h
  · obtain rfl : p = .plain 400 _ := h
    exact tells_plain (by decide +kernel)
  split at h
  · obtain rfl : p = .plain 413 _ := h
    exact tells_plain (by decide +kernel)
  obtain ⟨x, -, h⟩ := gives_bind.1 h
  cases x with
  | ok _ =>
    obtain rfl : p = .json 200 (Envelope.accepted (requestId r)) := h
    exact tells_envelope (.inl rfl)
  | error e =>
    obtain rfl : p = .json e.status (Envelope.rejected (e.clientText s.production) (requestId r)) := h
    exact tells_envelope (.inr ⟨_, rfl⟩)

theorem dispatch_tells (hmethod : r.method = "POST") (hpath : Endpoint.ofPath? r.path = some (.messages route segment))
    (h : (s.dispatch r).Gives P p) : Tells p (requestId r) := by
  unfold dispatch at h
  simp only [hpath, hmethod, Option.any_some, messages_allows, if_true, Option.elim_none,
    if_neg (show "POST" ≠ "HEAD" by decide)] at h
  split at h
  · obtain ⟨p', rfl, rfl⟩ := gives_bind.1 h
    exact tells_plain (by decide +kernel)
  · obtain ⟨p', hp', rfl⟩ := gives_bind.1 h
    exact messages_tells hp'

/-! ## The choice -/

/-- The identifier that was chosen is the one that the endpoints find in the request. It is that of the client, if the client
gave one that can be used. -/
theorem Chosen.usable {value : List UInt8} {r' : HttpRequest} (h : Chosen r value r') :
    Text.encode (requestId r') = value ∧ requestId r' ≠ "" ∧
      ∀ first, Headers.get? r.headers Headers.requestId = some first → Headers.Readable first → first ≠ [] → value = first := by
  cases h with
  | given h =>
    obtain ⟨hvalue, hshown⟩ := Option.filter_eq_some_iff.1 h
    obtain ⟨text, htext, hfilled⟩ := (Option.any_eq_true _ _).1 hshown
    have hid : requestId r = text := by rw [requestId, hvalue, Option.bind_some, htext, Option.getD_some]
    rw [hid]
    exact ⟨(Headers.shown?_eq_some_iff.1 htext).2, by simpa using hfilled, fun first hfirst _ _ =>
      Option.some.inj (hvalue.symm.trans hfirst)⟩
  | made h u =>
    have hid : requestId { r with headers := Headers.set r.headers Headers.requestId (Text.encode u.text) } = u.text := by
      rw [requestId, Headers.get?_set_self, Option.bind_some, Headers.shown?_eq_some_iff.2 ⟨Uuid.readable_text u, rfl⟩,
        Option.getD_some]
    rw [hid]
    refine ⟨rfl, Uuid.text_ne_empty u, fun first hfirst hreadable hne => ?_⟩
    -- a first value of use would have been chosen
    obtain ⟨text, rfl⟩ := hreadable.exists_encode
    have hempty := Option.filter_eq_none_iff.1 h _ hfirst
    rw [Headers.shown?_eq_some_iff.2 ⟨hreadable, rfl⟩] at hempty
    obtain rfl : text = "" := by simpa using hempty
    exact absurd (Text.encode_ofList []) hne

/-- What the response to a request says of the identifier of the request. -/
structure Identified (r : HttpRequest) (p : HttpResponse) (id : String) : Prop extends Tells p id where
  once : Headers.values p.headers Headers.requestId = [Text.encode id]
  filled : Text.encode id ≠ []
  given : ∀ value, (Headers.values r.headers Headers.requestId).head? = some value → Headers.Readable value → value ≠ [] →
    Text.encode id = value
  told : ∀ id', Envelope.Names p.body id' → id' = id

theorem handle_identified (hmethod : r.method = "POST") (hpath : Endpoint.ofPath? r.path = some (.messages route segment))
    (h : (s.handle r).Gives P p) : ∃ id, Identified r p id := by
  obtain ⟨value, r', p', hchosen, hp', rfl⟩ := handle_cases (by rw [hmethod]; decide) h
  obtain ⟨hm, hp, -, -⟩ := hchosen.same
  obtain ⟨rfl, hfilled, hgiven⟩ := hchosen.usable
  have htells := dispatch_tells (hm.trans hmethod) (hp ▸ hpath) hp'
  refine ⟨_, htells.set (by decide) _, Headers.values_set, fun hempty => hfilled ?_, fun first hfirst => ?_, fun id hid => ?_⟩
  · exact Text.encode_inj (hempty.trans (Text.encode_ofList []).symm)
  · rw [Headers.head?_values] at hfirst
    exact hgiven first hfirst
  · obtain ⟨v, hv, hread⟩ := hid.read
    exact Json.Value.text.inj (Option.some.inj (hread.symm.trans (htells.read v hv)))

/-- **A response and its body tell the same identifier of a request**: there is just one in the header of the response; it
is the first one of the request, if that one can be used; and it is the one in the envelope, if the body is an envelope. -/
theorem post_identified (hmethod : r.method = "POST") (hpath : Endpoint.ofPath? r.path = some (.messages route segment))
    {l : ServiceLog} {response : Option HttpResponse} (hruns : (s.handle r).Runs l response)
    (hl : Log.Answered (fun _ _ => True) l) : ∃ p, response = some p ∧ ∃ id, Identified r p id := by
  obtain ⟨p, rfl, h⟩ := gives_of_runs hruns hl
  exact ⟨p, rfl, handle_identified hmethod hpath h⟩

/-- A request that brings two identifiers. -/
def ambiguous : HttpRequest :=
  { sampleRequest with
    headers := [(Headers.requestId, Text.encode "first"), (Headers.requestId, Text.encode "second")] }

theorem sample_post_identified : ∃ l p, (sample.handle ambiguous).Runs l (some p) ∧ Log.Answered (fun _ _ => True) l ∧
    p.contentType = some "application/json" ∧ Identified ambiguous p "first" := by
  have hruns := runs_logWith sampleAnswer (sample.handle ambiguous)
  have hl : Log.Answered (fun _ _ => True) ((sample.handle ambiguous).logWith sampleAnswer) :=
    answered_logWith fun _ => trivial
  have hpath : Endpoint.ofPath? ambiguous.path = some (.messages .pushover none) := by decide
  obtain ⟨p, hp, id, hid⟩ := post_identified rfl hpath hruns hl
  have hfirst : id = "first" := Text.encode_inj (hid.given _ rfl (by decide +kernel) (by decide +kernel))
  subst hfirst
  have htype : ((sample.handle ambiguous).run (m := Id) sampleAnswer).contentType = some "application/json" := by
    decide +kernel
  obtain rfl := Option.some.inj hp
  exact ⟨_, _, hruns, hl, htype, hid⟩

end Service
end Courier
