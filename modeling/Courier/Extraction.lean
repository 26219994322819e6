import Courier.Message
import Courier.Template
/-
Messages from webhooks of any shape. An application maps fields of the message
to templates; the ones that find something in the webhook's body are filled,
and which ones those were is told beside the message. Extraction never fails.
-/

namespace Courier

open Json (Value)

/-- A field that a template can fill. -/
inductive MappedField
  | attachment | attachmentBase64 | attachmentType | device | html | message | priority | ttl | timestamp
  | title | url | urlTitle
  deriving DecidableEq, Repr

namespace MappedField

/-- All fields, in the order in which they are filled. -/
def all : List MappedField :=
  [.attachment, .attachmentBase64, .attachmentType, .device, .html, .message, .priority, .ttl, .timestamp,
   .title, .url, .urlTitle]

def name : MappedField → String
  | .attachment => "attachment"
  | .attachmentBase64 => "attachment_base64"
  | .attachmentType => "attachment_type"
  | .device => "device"
  | .html => "html"
  | .message => "message"
  | .priority => "priority"
  | .ttl => "ttl"
  | .timestamp => "timestamp"
  | .title => "title"
  | .url => "url"
  | .urlTitle => "url_title"

end MappedField

/-- The templates of an application; a field without one is empty. -/
structure CustomFormat where
  attachment : String := ""
  attachmentBase64 : String := ""
  attachmentType : String := ""
  device : String := ""
  html : String := ""
  message : String := ""
  priority : String := ""
  ttl : String := ""
  timestamp : String := ""
  title : String := ""
  url : String := ""
  urlTitle : String := ""
  deriving DecidableEq, Repr, Inhabited

namespace CustomFormat

/-- The template of a field. -/
def template (f : CustomFormat) : MappedField → String
  | .attachment => f.attachment
  | .attachmentBase64 => f.attachmentBase64
  | .attachmentType => f.attachmentType
  | .device => f.device
  | .html => f.html
  | .message => f.message
  | .priority => f.priority
  | .ttl => f.ttl
  | .timestamp => f.timestamp
  | .title => f.title
  | .url => f.url
  | .urlTitle => f.urlTitle

/-- The format with another template for one field. -/
def setTemplate (f : CustomFormat) (field : MappedField) (t : String) : CustomFormat :=
  match field with
  | .attachment => { f with attachment := t }
  | .attachmentBase64 => { f with attachmentBase64 := t }
  | .attachmentType => { f with attachmentType := t }
  | .device => { f with device := t }
  | .html => { f with html := t }
  | .message => { f with message := t }
  | .priority => { f with priority := t }
  | .ttl => { f with ttl := t }
  | .timestamp => { f with timestamp := t }
  | .title => { f with title := t }
  | .url => { f with url := t }
  | .urlTitle => { f with urlTitle := t }

/-- The form of a custom format. -/
def layout {D : Type → Type} [Json.Layout D] : D CustomFormat :=
  Json.Layout.record "CustomFormat" {}
    (MappedField.all.map fun field => Json.Field.optional field.name Json.Layout.text fun t f => f.setTemplate field t)

def toValue (f : CustomFormat) : Value :=
  .object (MappedField.all.map fun field => (field.name, .text (f.template field)))

end CustomFormat

namespace Extraction

/-- What a lookup finds in a webhook; arguments are not known here. -/
def lookup (body : Value) : Lookup → Option String
  | .webhook path => (path.navigate body).bind Template.renderValue
  | .arg _ => none

/-- The text that the template of one field makes of a webhook, if it finds anything. -/
def fieldText? (f : CustomFormat) (body : Value) (field : MappedField) : Option String :=
  let source := f.template field
  if source.isEmpty then none
  else
    match Template.parseField source with
    | .error _ => none
    | .ok t =>
      let r := t.render (lookup body)
      if r.found then some r.text else none

/-- A priority from text: 0 unless it is a whole number from -2 to 2. -/
def priorityOf (s : String) : Int :=
  let n := (Number.intWithin? (-2 ^ 31) (2 ^ 31 - 1) (Text.trim s.toList)).getD 0
  if -2 ≤ n ∧ n ≤ 2 then n else 0

/-- A time to live from text: 0 unless it is a positive whole number. -/
def ttlOf (s : String) : Int := max 0 ((Number.intWithin? (-2 ^ 63) (2 ^ 63 - 1) (Text.trim s.toList)).getD 0)

/-- Seconds since 1970 from text: a whole number as it is, anything else by a
reader of dates. -/
def timestampOf? (date : String → Option Int) (s : String) : Option Int :=
  let t := Text.trim s.toList
  if t.isEmpty then none
  else
    match Number.intWithin? (-2 ^ 63) (2 ^ 63 - 1) t with
    | some n => some n
    | none => date (String.ofList t)

/-- The message with one field filled from text. -/
def fill (date : String → Option Int) (m : Message) (field : MappedField) (text : String) : Message :=
  match field with
  | .attachment => { m with attachment := text }
  | .attachmentBase64 => { m with attachmentBase64 := text }
  | .attachmentType => { m with attachmentType := text }
  | .device => { m with device := text }
  | .message => { m with message := text }
  | .title => { m with title := text }
  | .url => { m with url := text }
  | .urlTitle => { m with urlTitle := text }
  | .html =>
    let t := Text.strip text
    if t = "0" then { m with html := 0 } else if t = "1" then { m with html := 1 } else m
  | .priority => { m with priority := priorityOf text }
  | .ttl => { m with ttl := ttlOf text }
  | .timestamp =>
    match timestampOf? date text with
    | some n => { m with timestamp := n }
    | none => m

/-- The message with one field filled if its template finds something. -/
def fillFrom (date : String → Option Int) (f : CustomFormat) (body : Value) (m : Message) (field : MappedField) :
    Message :=
  match fieldText? f body field with
  | some text => fill date m field text
  | none => m

/-- The fields whose templates find something. -/
def found (f : CustomFormat) (body : Value) : List MappedField :=
  MappedField.all.filter fun field => (fieldText? f body field).isSome

/-- The message that a custom format makes of a webhook, dates being read by
`date`, and the fields that were found. -/
def extract (date : String → Option Int) (f : CustomFormat) (body : Value) : Message × List MappedField :=
  (MappedField.all.foldl (fillFrom date f body) {}, found f body)

end Extraction
end Courier
