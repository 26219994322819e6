import Courier.Message
import Courier.Text.Ascii
import Courier.Text.Blank
/-
Encryption of single fields of a message. A policy says which fields are
encrypted and for whom; each of them is replaced by armored text. All
recipients are read before anything is encrypted, so a message is encrypted as
a whole or left alone.
-/

namespace Courier

/-- How an application encrypts. -/
inductive EncryptionType
  | none
  | age
  deriving DecidableEq, Repr, Inhabited

inductive EncryptionError
  | invalidRecipient (recipient reason : String)
  | noRecipients
  | unknownType (name : String)
  deriving DecidableEq, Repr

def EncryptionError.message : EncryptionError → String
  | .invalidRecipient recipient reason => "invalid age recipient " ++ Text.quote recipient ++ ": " ++ reason
  | .noRecipients => "encryption enabled without recipients"
  | .unknownType name => "unknown encryption type: " ++ name

namespace EncryptionType

def name : EncryptionType → String
  | .none => "none"
  | .age => "age"

/-- The type of a name in letters of any case; no name is no encryption. -/
def ofName (name : String) : Except EncryptionError EncryptionType :=
  let n := Text.lower name
  if n = "" ∨ n = "none" then .ok .none else if n = "age" then .ok .age else .error (.unknownType n)

def layout {D : Type → Type} [Json.Layout D] : D EncryptionType :=
  Json.Layout.choice "EncryptionType" [("none", .none), ("age", .age)]

end EncryptionType

/-- Which fields are encrypted, and for whom. -/
structure EncryptionPolicy where
  kind : EncryptionType := .none
  recipients : List String := []
  title : Bool := false
  message : Bool := false
  attachment : Bool := false
  deriving DecidableEq, Repr, Inhabited

/-- Whether a policy encrypts anything. -/
def EncryptionPolicy.isActive (p : EncryptionPolicy) : Bool :=
  p.kind == .age && (p.title || p.message || p.attachment)

/-- A way to encrypt: how recipients are read, and how a text is encrypted for some of them. -/
structure Cipher where
  Recipient : Type
  recipient : String → Except String Recipient
  armor : String → List Recipient → String

namespace Encryption

/-- Reads one recipient, blanks around it left out. -/
def readRecipient (c : Cipher) (raw : String) : Except EncryptionError c.Recipient :=
  match c.recipient (Text.strip raw) with
  | .ok r => .ok r
  | .error reason => .error (.invalidRecipient raw reason)

/-- Reads all recipients, of which there must be one at least. -/
def readRecipients (c : Cipher) (raw : List String) : Except EncryptionError (List c.Recipient) :=
  if raw.isEmpty then .error .noRecipients else raw.mapM (readRecipient c)

/-- Whether the attachment in plain text is encrypted, or else the one in base64. -/
def attachmentFields (p : EncryptionPolicy) (m : Message) : Bool × Bool :=
  let plain := p.attachment && !m.attachment.isEmpty
  (plain, p.attachment && !plain && !m.attachmentBase64.isEmpty && !m.attachmentType.isEmpty)

/-- The message with the fields of a policy replaced. -/
def replaceFields (p : EncryptionPolicy) (armor : String → String) (m : Message) : Message :=
  let (plain, base64) := attachmentFields p m
  { m with
    title := if p.title then armor m.title else m.title
    message := if p.message then armor m.message else m.message
    attachment := if plain then armor m.attachment else m.attachment
    attachmentBase64 := if base64 then armor m.attachmentBase64 else m.attachmentBase64 }

/-- Encrypts a message after a policy; tells whether any field was replaced. -/
def encrypt (c : Cipher) (p : EncryptionPolicy) (m : Message) : Except EncryptionError (Message × Bool) :=
  if !p.isActive then .ok (m, false)
  else
    match readRecipients c p.recipients with
    | .error e => .error e
    | .ok recipients =>
      let (plain, base64) := attachmentFields p m
      .ok (replaceFields p (fun text => c.armor text recipients) m, p.title || p.message || plain || base64)

end Encryption
end Courier
