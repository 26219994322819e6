import Courier.Json.Decoder
import Courier.Json.Render
/-
The message: what every way in produces, what stands on the queue, and what a
target delivers. Its written form is a record of fifteen fields, each of which
may be left out.
-/

namespace Courier

open Json (Value)

/-- Flags that nobody outside can set. -/
structure Internal where
  /-- Whether the message came in through the submission route. -/
  viaSubmit : Bool := false
  deriving DecidableEq, Repr, Inhabited

structure Message where
  token : String := ""
  user : String := ""
  message : String := ""
  /-- An attachment in plain text. -/
  attachment : String := ""
  /-- An attachment in base64. -/
  attachmentBase64 : String := ""
  /-- The media type of the attachment in base64. -/
  attachmentType : String := ""
  device : String := ""
  html : Int := 0
  priority : Int := 0
  /-- Seconds since 1970. -/
  timestamp : Int := 0
  title : String := ""
  /-- Seconds to live. -/
  ttl : Int := 0
  url : String := ""
  urlTitle : String := ""
  internal : Internal := {}
  deriving DecidableEq, Repr, Inhabited

namespace Message

section

variable {D : Type → Type} [Json.Layout D]

open Json (Field Whole)

/-- The form of the internal flags. -/
def internalLayout : D Internal :=
  Json.Layout.record "Internal" {}
    [Field.optional "via_submit" Json.Layout.flag fun v i => { i with viaSubmit := v }]

/-- The form of a message. -/
def layout : D Message :=
  Json.Layout.record "Message" {}
    [Field.optional "token" Json.Layout.text fun v m => { m with token := v },
     Field.optional "user" Json.Layout.text fun v m => { m with user := v },
     Field.optional "message" Json.Layout.text fun v m => { m with message := v },
     Field.optional "attachment" Json.Layout.text fun v m => { m with attachment := v },
     Field.optional "attachment_base64" Json.Layout.text fun v m => { m with attachmentBase64 := v },
     Field.optional "attachment_type" Json.Layout.text fun v m => { m with attachmentType := v },
     Field.optional "device" Json.Layout.text fun v m => { m with device := v },
     Field.optional "html" (Json.Layout.whole Whole.i32) fun v m => { m with html := v },
     Field.optional "priority" (Json.Layout.whole Whole.i32) fun v m => { m with priority := v },
     Field.optional "timestamp" (Json.Layout.whole Whole.i64) fun v m => { m with timestamp := v },
     Field.optional "title" Json.Layout.text fun v m => { m with title := v },
     Field.optional "ttl" (Json.Layout.whole Whole.i64) fun v m => { m with ttl := v },
     Field.optional "url" Json.Layout.text fun v m => { m with url := v },
     Field.optional "url_title" Json.Layout.text fun v m => { m with urlTitle := v },
     Field.optional "_internal" internalLayout fun v m => { m with internal := v }]

end

/-- A message as a value, all fields in their order. -/
def toValue (m : Message) : Value :=
  .object
    [("token", .text m.token), ("user", .text m.user), ("message", .text m.message),
     ("attachment", .text m.attachment), ("attachment_base64", .text m.attachmentBase64),
     ("attachment_type", .text m.attachmentType), ("device", .text m.device),
     ("html", .int m.html), ("priority", .int m.priority), ("timestamp", .int m.timestamp),
     ("title", .text m.title), ("ttl", .int m.ttl), ("url", .text m.url), ("url_title", .text m.urlTitle),
     ("_internal", .object [("via_submit", .bool m.internal.viaSubmit)])]

/-- A message as it is written on the queue. -/
def encode (m : Message) : String := m.toValue.compact

/-- Reads a message. -/
def decode (s : String) : Except String Message := Json.Decoder.ofString layout s

/-- A message with all internal flags unset. -/
def clearInternal (m : Message) : Message := { m with internal := {} }

def setViaSubmit (m : Message) (v : Bool) : Message := { m with internal := { m.internal with viaSubmit := v } }

def isViaSubmit (m : Message) : Bool := m.internal.viaSubmit

/-- A message that belongs to the given application and user. -/
def assignIdentity (m : Message) (token user : String) : Message := { m with token := token, user := user }

/-- A message as text for a chat: title, message, and the link if there is one. -/
def toText (m : Message) : String :=
  m.title ++ "\n\n" ++ m.message ++ "\n" ++
    (if m.urlTitle.isEmpty then "" else "\n" ++ m.urlTitle) ++ (if m.url.isEmpty then "" else "\n" ++ m.url)

@[simp] theorem isViaSubmit_setViaSubmit (m : Message) (v : Bool) : (m.setViaSubmit v).isViaSubmit = v := rfl

@[simp] theorem isViaSubmit_clearInternal (m : Message) : m.clearInternal.isViaSubmit = false := rfl

@[simp] theorem isViaSubmit_assignIdentity (m : Message) (t u : String) :
    (m.assignIdentity t u).isViaSubmit = m.isViaSubmit := rfl

end Message
end Courier
