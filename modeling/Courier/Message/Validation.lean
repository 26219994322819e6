import Courier.Message
import Courier.Text.Base64
import Courier.Text.WebUrl
/-
The checks a message must pass before it is queued. They go in a fixed order,
and the first one that fails is the one reported.
-/

namespace Courier

/-- What is wrong with a message. -/
inductive ValidationError
  | required (field : String)
  | notPrintable (field : String)
  | invalidHtml
  | invalidPriority
  | negativeTtl
  | invalidUrl
  | invalidBase64
  | missingAttachmentType
  | conflictingAttachments
  deriving DecidableEq, Repr

def ValidationError.message : ValidationError → String
  | .required f => f ++ " is required"
  | .notPrintable f => f ++ " must contain printable ASCII characters only"
  | .invalidHtml => "html must be 0 or 1"
  | .invalidPriority => "priority must be between -2 and 2"
  | .negativeTtl => "ttl must not be negative"
  | .invalidUrl => "url must be an http or https URL"
  | .invalidBase64 => "attachment_base64 is not valid base64"
  | .missingAttachmentType => "attachment_type is required with attachment_base64"
  | .conflictingAttachments => "attachment and attachment_base64 are mutually exclusive"

namespace Message

/-- Whether a text is not empty and made of the characters from space to tilde. -/
def isPrintable (s : String) : Bool :=
  !s.isEmpty && s.toList.all fun c => 0x20 ≤ c.toNat && c.toNat ≤ 0x7E

/-- A check that fails with an error unless its condition holds. -/
def check (ok : Bool) (e : ValidationError) : Except ValidationError Unit :=
  if ok then .ok () else .error e

/-- Checks an identifier: there, and printable. -/
def validateIdentifier (name value : String) : Except ValidationError Unit := do
  check (!value.isEmpty) (.required name)
  check (isPrintable value) (.notPrintable name)

/-- Checks the attachment in base64, if there is one. -/
def validateAttachment (m : Message) : Except ValidationError Unit :=
  if m.attachmentBase64.isEmpty then .ok ()
  else do
    check m.attachment.isEmpty .conflictingAttachments
    check (Text.Base64.decode? m.attachmentBase64).isSome .invalidBase64
    check (!m.attachmentType.isEmpty) .missingAttachmentType

/-- Checks every field; the first thing wrong is reported. -/
def validate (m : Message) : Except ValidationError Unit := do
  validateIdentifier "token" m.token
  validateIdentifier "user" m.user
  check (!m.message.isEmpty) (.required "message")
  check (0 ≤ m.html && m.html ≤ 1) .invalidHtml
  check (-2 ≤ m.priority && m.priority ≤ 2) .invalidPriority
  check (0 ≤ m.ttl) .negativeTtl
  check (m.url.isEmpty || Text.WebUrl.isWebUrl m.url) .invalidUrl
  validateAttachment m

end Message
end Courier
