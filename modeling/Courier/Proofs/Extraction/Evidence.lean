import Courier.Message.Validation
import Courier.Proofs.Extraction
import Courier.Proofs.Outcome
import Courier.Proofs.Template.Grammar
/-
What extraction goes by. Each field is filled, or left empty, by its own template and the webhook
alone. It is found on evidence only: its template is there, can be read, and has a path that leads
to something in the webhook. A text is then what the template makes of the webhook. Whatever comes
out belongs to nobody yet, and its numbers are such that no check of them fails.
-/

namespace Courier

open Json (Value)

/-! ## Fields -/

/-- What a message has in a field. -/
inductive Content
  | text (s : String)
  | number (n : Int)
  deriving DecidableEq, Repr

/-- Whether a field holds text. -/
def MappedField.isText : MappedField → Bool
  | .html | .priority | .ttl | .timestamp => false
  | _ => true

/-- What a message has in one of the fields that a template can fill. -/
def Message.content (m : Message) : MappedField → Content
  | .attachment => .text m.attachment
  | .attachmentBase64 => .text m.attachmentBase64
  | .attachmentType => .text m.attachmentType
  | .device => .text m.device
  | .html => .number m.html
  | .message => .text m.message
  | .priority => .number m.priority
  | .ttl => .number m.ttl
  | .timestamp => .number m.timestamp
  | .title => .text m.title
  | .url => .text m.url
  | .urlTitle => .text m.urlTitle

theorem MappedField.mem_all (field : MappedField) : field ∈ all := by
  cases field <;> decide

theorem MappedField.nodup_all : all.Nodup := by decide

namespace Extraction

section

variable {date : String → Option Int} {m m' : Message} {field other : MappedField} {text : String}

/-- Filling a field leaves the others as they are. -/
theorem content_fill_other (h : other ≠ field) : (fill date m field text).content other = m.content other := by
  cases field with
  | attachment | attachmentBase64 | attachmentType | device | message | title | url | urlTitle | priority | ttl =>
    cases other <;> first | rfl | exact absurd rfl h
  | html =>
    obtain ⟨n, -, hfilled⟩ := fill_html date m text
    rw [hfilled]
    cases other <;> first | rfl | exact absurd rfl h
  | timestamp =>
    obtain ⟨n, -, hfilled⟩ := fill_timestamp date m text
    rw [hfilled]
    cases other <;> first | rfl | exact absurd rfl h

/-- What a field is filled with depends on what it held before and on nothing else in the message. -/
theorem content_fill_own (h : m.content field = m'.content field) :
    (fill date m field text).content field = (fill date m' field text).content field := by
  cases field with
  | attachment | attachmentBase64 | attachmentType | device | message | title | url | urlTitle | priority | ttl => rfl
  | html =>
    simp only [fill]
    split
    · rfl
    · split
      · rfl
      · exact h
  | timestamp =>
    simp only [fill]
    split
    · rfl
    · exact h

theorem content_fill_text (h : field.isText) : (fill date m field text).content field = .text text := by
  cases field <;> first | rfl | cases h

end

section

variable {date : String → Option Int} {f g : CustomFormat} {body : Value} {m m' : Message} {field other : MappedField}
  {text : String}

theorem fieldText?_congr (h : f.template field = g.template field) : fieldText? f body field = fieldText? g body field := by
  simp only [fieldText?, h]

theorem content_fillFrom_other (h : other ≠ field) : (fillFrom date f body m field).content other = m.content other := by
  unfold fillFrom
  split
  · exact content_fill_other h
  · rfl

theorem content_fillFrom_own (h : m.content field = m'.content field) :
    (fillFrom date f body m field).content field = (fillFrom date f body m' field).content field := by
  unfold fillFrom
  split
  · exact content_fill_own h
  · exact h

/-- Of fields that are filled one after the other, each is as if it were the only one. -/
theorem content_foldl {fields : List MappedField} (hnodup : fields.Nodup) (hmem : field ∈ fields) :
    (fields.foldl (fillFrom date f body) m).content field = (fillFrom date f body m field).content field := by
  have hothers : ∀ (fields : List MappedField) (m : Message), field ∉ fields →
      (fields.foldl (fillFrom date f body) m).content field = m.content field := by
    intro fields
    induction fields with
    | nil => exact fun m _ => rfl
    | cons other fields ih =>
      intro m hnot
      rw [List.mem_cons, not_or] at hnot
      rw [List.foldl_cons, ih _ hnot.2, content_fillFrom_other hnot.1]
  induction fields generalizing m with
  | nil => cases hmem
  | cons other fields ih =>
    rw [List.nodup_cons] at hnodup
    rw [List.foldl_cons]
    rcases List.mem_cons.1 hmem with rfl | hlater
    · exact hothers fields _ hnodup.1
    · have hne : field ≠ other := fun he => hnodup.1 (he ▸ hlater)
      rw [ih hnodup.2 hlater]
      exact content_fillFrom_own (content_fillFrom_other hne)

theorem content_extract (date : String → Option Int) (f : CustomFormat) (body : Value) (field : MappedField) :
    (extract date f body).1.content field = (fillFrom date f body {} field).content field :=
  content_foldl MappedField.nodup_all field.mem_all

theorem mem_extract_found : field ∈ (extract date f body).2 ↔ (fieldText? f body field).isSome := by
  simp only [extract, found, List.mem_filter, field.mem_all, true_and]

end

/-! ## Evidence -/

/-- Whether a path leads to something in a webhook: to a value that is neither null nor an empty container. -/
def Leads (body : Value) (path : FieldPath) : Prop :=
  ∃ v, path.navigate body = some v ∧ v ≠ .null ∧ v ≠ .array [] ∧ v ≠ .object []

/-- Whether a template is there, can be read, and has a path that leads to something. -/
def Evident (body : Value) (source : String) : Prop :=
  source ≠ "" ∧ ∃ t, Template.parseField source = .ok t ∧ ∃ path, .webhook path ∈ t.lookups ∧ Leads body path

/-- A part of a template as it is shown for a webhook: a text as it is, a path as the value that it
leads to, and nothing where there is none. -/
def shown (body : Value) : Part → String
  | .literal s => s
  | .lookup (.arg _) => ""
  | .lookup (.webhook path) =>
    match path.navigate body with
    | none | some .null | some (.array []) | some (.object []) => ""
    | some (.text s) => s
    | some v => v.compact

theorem renderValue_isSome (v : Value) : (Template.renderValue v).isSome ↔ v ≠ .null ∧ v ≠ .array [] ∧ v ≠ .object [] := by
  unfold Template.renderValue
  split <;> simp_all

theorem lookup_isSome {body : Value} {l : Lookup} : (lookup body l).isSome ↔ ∃ path, l = .webhook path ∧ Leads body path := by
  cases l with
  | arg name => simp [lookup]
  | webhook path =>
    simp only [lookup, Lookup.webhook.injEq, exists_eq_left', Leads]
    cases path.navigate body with
    | none => simp
    | some v => simp [renderValue_isSome]

theorem renderPart_lookup (body : Value) : Template.renderPart (lookup body) = shown body := by
  funext part
  cases part with
  | literal s => rfl
  | lookup l =>
    cases l with
    | arg name => rfl
    | webhook path =>
      simp only [Template.renderPart, lookup, shown]
      cases path.navigate body with
      | none => rfl
      | some v =>
        cases v with
        | array vs => cases vs <;> rfl
        | object fields => cases fields <;> rfl
        | _ => rfl

theorem lookups_of_parseField {source : String} {t : Template} (h : Template.parseField source = .ok t) :
    t.lookups ≠ [] := by
  simp only [Template.parseField] at h
  split at h
  · next hopen =>
    refine Template.lookups_of_parse h fun hplain => ?_
    rw [Template.splitPair?_none_iff.2 hplain] at hopen
    cases hopen
  · split at h
    · cases h
    · obtain ⟨path, -, rfl⟩ := ok_of_map h
      simp [Template.lookups]

/-- A template of a field is found if one of its lookups finds something. -/
theorem render_found {t : Template} (h : t.lookups ≠ []) (resolve : Lookup → Option String) :
    (t.render resolve).found = t.lookups.any fun l => (resolve l).isSome := by
  simp only [Template.render]
  split
  · rfl
  · rw [List.isEmpty_eq_false_iff.2 h, Bool.false_or]

section

variable {f : CustomFormat} {body : Value} {field : MappedField} {text : String}

theorem fieldText?_some (h : fieldText? f body field = some text) :
    ∃ t, Template.parseField (f.template field) = .ok t ∧ text = String.join (t.parts.map (shown body)) := by
  simp only [fieldText?] at h
  split at h
  · cases h
  · split at h
    · cases h
    · next t ht =>
      split at h
      · cases h
        refine ⟨t, ht, ?_⟩
        simp only [Template.render, renderPart_lookup]
      · cases h

theorem fieldText?_isSome : (fieldText? f body field).isSome ↔ Evident body (f.template field) := by
  simp only [fieldText?, Evident]
  by_cases hempty : f.template field = ""
  · simp [hempty]
  · rw [if_neg (by simpa using hempty)]
    cases ht : Template.parseField (f.template field) with
    | error e => simp
    | ok t =>
      have hfound : (t.render (lookup body)).found ↔ ∃ path, .webhook path ∈ t.lookups ∧ Leads body path := by
        rw [render_found (lookups_of_parseField ht), List.any_eq_true]
        simp only [lookup_isSome]
        constructor
        · rintro ⟨_, hmem, path, rfl, hleads⟩
          exact ⟨path, hmem, hleads⟩
        · rintro ⟨path, hmem, hleads⟩
          exact ⟨_, hmem, path, rfl, hleads⟩
      simp only [Option.isSome_ite, hfound, ne_eq, hempty, not_false_eq_true, Except.ok.injEq, exists_eq_left', true_and]

end

/-! ## Bounds -/

end Extraction

namespace Message

/-- Whether a message is nobody's, does not come from the submission route, and has its numbers
within their bounds. -/
structure Bounded (m : Message) : Prop where
  token : m.token = ""
  user : m.user = ""
  viaSubmit : m.isViaSubmit = false
  html : m.html = 0 ∨ m.html = 1
  priority : -2 ≤ m.priority ∧ m.priority ≤ 2
  ttl : 0 ≤ m.ttl

theorem check_error {ok : Bool} {e e' : ValidationError} (h : check ok e = .error e') : ok = false ∧ e' = e := by
  cases ok with
  | false =>
    cases h
    exact ⟨rfl, rfl⟩
  | true => cases h

theorem validateIdentifier_error {name value : String} {e : ValidationError} (h : validateIdentifier name value = .error e) :
    e = .required name ∨ e = .notPrintable name := by
  rcases bind_error.1 h with h | ⟨-, -, h⟩
  · exact .inl (check_error h).2
  · exact .inr (check_error h).2

theorem validateAttachment_error {m : Message} {e : ValidationError} (h : m.validateAttachment = .error e) :
    e = .conflictingAttachments ∨ e = .invalidBase64 ∨ e = .missingAttachmentType := by
  unfold validateAttachment at h
  split at h
  · cases h
  · rcases bind_error.1 h with h | ⟨-, -, h⟩
    · exact .inl (check_error h).2
    · rcases bind_error.1 h with h | ⟨-, -, h⟩
      · exact .inr (.inl (check_error h).2)
      · exact .inr (.inr (check_error h).2)

/-- What is wrong with a message, which of the numbers it is that the error blames. -/
theorem validate_error {m : Message} {e : ValidationError} (h : m.validate = .error e) :
    (e = .invalidHtml → ¬(0 ≤ m.html ∧ m.html ≤ 1)) ∧ (e = .invalidPriority → ¬(-2 ≤ m.priority ∧ m.priority ≤ 2)) ∧
      (e = .negativeTtl → ¬0 ≤ m.ttl) := by
  simp only [validate, bind_error] at h
  rcases h with h | ⟨-, -, h | ⟨-, -, h | ⟨-, -, h | ⟨-, -, h | ⟨-, -, h | ⟨-, -, h | ⟨-, -, h⟩⟩⟩⟩⟩⟩⟩
  · rcases validateIdentifier_error h with rfl | rfl <;> simp
  · rcases validateIdentifier_error h with rfl | rfl <;> simp
  · obtain ⟨-, rfl⟩ := check_error h
    simp
  · obtain ⟨hbounds, rfl⟩ := check_error h
    simpa using hbounds
  · obtain ⟨hbounds, rfl⟩ := check_error h
    simpa using hbounds
  · obtain ⟨hbounds, rfl⟩ := check_error h
    simpa using hbounds
  · obtain ⟨-, rfl⟩ := check_error h
    simp
  · rcases validateAttachment_error h with rfl | rfl | rfl <;> simp

end Message

namespace Extraction

section

variable {date : String → Option Int}

theorem fill_bounded {m : Message} (hm : m.Bounded) (field : MappedField) (text : String) :
    (fill date m field text).Bounded := by
  cases field with
  | attachment | attachmentBase64 | attachmentType | device | message | title | url | urlTitle =>
    exact ⟨hm.token, hm.user, hm.viaSubmit, hm.html, hm.priority, hm.ttl⟩
  | html =>
    obtain ⟨n, hn, hfilled⟩ := fill_html date m text
    rw [hfilled]
    refine ⟨hm.token, hm.user, hm.viaSubmit, ?_, hm.priority, hm.ttl⟩
    rcases hn with rfl | rfl | rfl
    · exact .inl rfl
    · exact .inr rfl
    · exact hm.html
  | priority => exact ⟨hm.token, hm.user, hm.viaSubmit, hm.html, priorityOf_small text, hm.ttl⟩
  | ttl => exact ⟨hm.token, hm.user, hm.viaSubmit, hm.html, hm.priority, Int.le_max_left ..⟩
  | timestamp =>
    obtain ⟨n, -, hfilled⟩ := fill_timestamp date m text
    rw [hfilled]
    exact ⟨hm.token, hm.user, hm.viaSubmit, hm.html, hm.priority, hm.ttl⟩

theorem extract_bounded (f : CustomFormat) (body : Value) : (extract date f body).1.Bounded :=
  extract_keeps f body ⟨rfl, rfl, rfl, .inl rfl, by decide, by decide⟩ fun _ field text hm => fill_bounded hm field text

end

/-! ## Together -/

/-- What is said of a field of what `f` makes of a webhook. -/
structure Grounded (date : String → Option Int) (f : CustomFormat) (body : Value) (field : MappedField) : Prop where
  /-- Nothing but its own template tells what is in it, and whether it is found. -/
  own : ∀ g : CustomFormat, g.template field = f.template field →
    (extract date g body).1.content field = (extract date f body).1.content field ∧
      (field ∈ (extract date g body).2 ↔ field ∈ (extract date f body).2)
  found : field ∈ (extract date f body).2 ↔ Evident body (f.template field)
  unfound : field ∉ (extract date f body).2 → (extract date f body).1.content field = ({} : Message).content field
  text : field ∈ (extract date f body).2 → field.isText = true →
    ∃ t, Template.parseField (f.template field) = .ok t ∧
      (extract date f body).1.content field = .text (String.join (t.parts.map (shown body)))

theorem extract_grounded (date : String → Option Int) (f : CustomFormat) (body : Value) (field : MappedField) :
    Grounded date f body field where
  own g h := by
    rw [content_extract, content_extract, mem_extract_found, mem_extract_found, fillFrom, fillFrom, fieldText?_congr h]
    exact ⟨rfl, Iff.rfl⟩
  found := mem_extract_found.trans fieldText?_isSome
  unfound h := by
    rw [mem_extract_found, Option.not_isSome_iff_eq_none] at h
    rw [content_extract, fillFrom, h]
  text h htext := by
    obtain ⟨text, hfilled⟩ := Option.isSome_iff_exists.1 (mem_extract_found.1 h)
    obtain ⟨t, ht, rfl⟩ := fieldText?_some hfilled
    refine ⟨t, ht, ?_⟩
    rw [content_extract, fillFrom, hfilled]
    exact content_fill_text htext

/-- **Extraction is local, goes by evidence, and stays within bounds**, whatever the templates, the
webhook and the reader of dates are: each field is grounded in its own template; the message is
nobody's and its numbers are within their bounds; and whoever it is given to, no check blames them. -/
theorem extract_by_evidence (date : String → Option Int) (f : CustomFormat) (body : Value) :
    (∀ field, Grounded date f body field) ∧ (extract date f body).1.Bounded ∧
      ∀ token user, ∀ e ∈ [ValidationError.invalidHtml, .invalidPriority, .negativeTtl],
        ((extract date f body).1.assignIdentity token user).validate ≠ .error e := by
  have hbounded : (extract date f body).1.Bounded := extract_bounded f body
  refine ⟨extract_grounded date f body, hbounded, fun token user e he hrefused => ?_⟩
  obtain ⟨hhtml, hpriority, httl⟩ := Message.validate_error hrefused
  simp only [List.mem_cons, List.not_mem_nil, or_false] at he
  rcases he with rfl | rfl | rfl
  · refine hhtml rfl ?_
    rcases hbounded.html with h | h <;> simp [Message.assignIdentity, h]
  · exact hpriority rfl hbounded.priority
  · exact httl rfl hbounded.ttl

/-- A title made of the name of an alert. -/
def sampleFormat : CustomFormat := { title := "\x7b\x7bwebhook \"alert.name\"\x7d\x7d!" }

def sampleHook : Value := .object [("alert", .object [("name", .text "Disk full")])]

theorem sample_extract_by_evidence :
    MappedField.title ∈ (extract (fun _ => none) sampleFormat sampleHook).2 ∧
      MappedField.url ∉ (extract (fun _ => none) sampleFormat sampleHook).2 ∧
      (extract (fun _ => none) sampleFormat sampleHook).1.content .title = .text "Disk full!" ∧
      (extract (fun _ => none) sampleFormat sampleHook).1.content .url = .text "" := by
  obtain ⟨hgrounded, -, -⟩ := extract_by_evidence (fun _ => none) sampleFormat sampleHook
  have hparse : Template.parseField (sampleFormat.template .title) =
      .ok ⟨[.lookup (.webhook ⟨.body, ["alert", "name"]⟩), .literal "!"], false⟩ := by decide +kernel
  have htitle := (hgrounded .title).found.2
    ⟨by decide, _, hparse, _, .head _, .text "Disk full", rfl, by simp, by simp, by simp⟩
  have hurl : MappedField.url ∉ (extract (fun _ => none) sampleFormat sampleHook).2 :=
    fun h => ((hgrounded .url).found.1 h).1 rfl
  refine ⟨htitle, hurl, ?_, (hgrounded .url).unfound hurl⟩
  obtain ⟨t, ht, htext⟩ := (hgrounded .title).text htitle rfl
  obtain rfl := Except.ok.inj (hparse.symm.trans ht)
  rw [htext]
  decide +kernel

end Extraction
end Courier
