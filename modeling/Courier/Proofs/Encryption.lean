import Courier.Encryption
import Courier.Message.Validation
import Courier.Proofs.Outcome
/-
What encryption makes of a message. Recipients come first: with none, or with one
that cannot be read, there is no message at all, so nothing goes out in the clear
because somebody could not be encrypted for.

Which of the attachments is encrypted depends on what else is there. An attachment in
base64 is passed over beside one in plain text, and without a media type. A message
that was checked has neither of these, and so nothing of it is passed over; it takes
both the check and encryption for a message to come out `Sealed`.
-/

namespace Courier

/-! ## Messages that were checked -/

namespace Message

theorem of_check {b : Bool} {e : ValidationError} {x : Unit} (h : check b e = .ok x) : b = true := by
  unfold check at h
  split at h
  · assumption
  · cases h

/-- An attachment in base64 has a media type, and no attachment in plain text beside it. -/
theorem attachment_of_validate {m : Message} (h : m.validate = .ok ()) :
    m.attachmentBase64 = "" ∨ m.attachment = "" ∧ m.attachmentType ≠ "" := by
  have hattachment : m.validateAttachment = .ok () := by
    unfold validate at h
    iterate 7
      obtain ⟨_, -, h⟩ := bind_ok.1 h
    exact h
  unfold validateAttachment at hattachment
  split at hattachment
  · next hempty => exact .inl (String.isEmpty_iff.1 hempty)
  · obtain ⟨_, halone, hrest⟩ := bind_ok.1 hattachment
    obtain ⟨_, -, htype⟩ := bind_ok.1 hrest
    exact .inr ⟨String.isEmpty_iff.1 (of_check halone), by simpa using of_check htype⟩

end Message

namespace Encryption

variable {c : Cipher} {p : EncryptionPolicy} {m m' : Message}

/-! ## Recipients -/

/-- Whether nothing can be encrypted: there are no recipients, or one cannot be read. -/
def Unreadable (c : Cipher) (raw : List String) : Prop :=
  raw = [] ∨ ∃ text ∈ raw, ∃ reason, c.recipient (Text.strip text) = .error reason

/-- Recipients, each as it was read. -/
def ReadAs (c : Cipher) (raw : List String) (recipients : List c.Recipient) : Prop :=
  List.Forall₂ (fun text r => c.recipient (Text.strip text) = .ok r) raw recipients

theorem readRecipient_ok {text : String} {r : c.Recipient} :
    readRecipient c text = .ok r ↔ c.recipient (Text.strip text) = .ok r := by
  unfold readRecipient
  cases c.recipient (Text.strip text) with
  | ok _ => simp
  | error _ => simp

theorem readRecipient_error {text : String} :
    (∃ e, readRecipient c text = .error e) ↔ ∃ reason, c.recipient (Text.strip text) = .error reason := by
  unfold readRecipient
  cases c.recipient (Text.strip text) with
  | ok _ => simp
  | error reason => exact ⟨fun _ => ⟨reason, rfl⟩, fun _ => ⟨_, rfl⟩⟩

theorem readAs_of_readRecipients {raw : List String} {recipients : List c.Recipient}
    (h : readRecipients c raw = .ok recipients) : ReadAs c raw recipients := by
  unfold readRecipients at h
  split at h
  · cases h
  · exact (mapM_ok.1 h).imp fun _ _ => readRecipient_ok.1

theorem unreadable_iff {raw : List String} : Unreadable c raw ↔ ∃ e, readRecipients c raw = .error e := by
  unfold readRecipients Unreadable
  split
  · next hempty => exact ⟨fun _ => ⟨_, rfl⟩, fun _ => .inl (List.isEmpty_iff.1 hempty)⟩
  · next hsome =>
    have hne : raw ≠ [] := fun hnil => hsome (List.isEmpty_iff.2 hnil)
    rw [mapM_error, or_iff_right hne]
    simp only [readRecipient_error]

/-! ## Messages -/

/-- A message with the fields of a policy replaced, and no others. -/
structure Sealed (p : EncryptionPolicy) (armor : String → String) (m m' : Message) : Prop where
  title : m'.title = if p.title then armor m.title else m.title
  message : m'.message = if p.message then armor m.message else m.message
  attachment : m'.attachment = if p.attachment ∧ m.attachment ≠ "" then armor m.attachment else m.attachment
  attachmentBase64 : m'.attachmentBase64 =
    if p.attachment ∧ m.attachmentBase64 ≠ "" then armor m.attachmentBase64 else m.attachmentBase64
  rest : { m' with
    title := m.title, message := m.message, attachment := m.attachment, attachmentBase64 := m.attachmentBase64 } = m

/-- Of a message that was checked, every attachment there is is encrypted. -/
theorem attachmentFields_of_validate (h : m.validate = .ok ()) :
    ((attachmentFields p m).1 = true ↔ p.attachment ∧ m.attachment ≠ "") ∧
      ((attachmentFields p m).2 = true ↔ p.attachment ∧ m.attachmentBase64 ≠ "") := by
  have hplain : (attachmentFields p m).1 = true ↔ p.attachment ∧ m.attachment ≠ "" := by
    simp [attachmentFields]
  refine ⟨hplain, ?_⟩
  rcases Message.attachment_of_validate h with hnone | ⟨halone, htype⟩
  · simp [attachmentFields, hnone]
  · simp [attachmentFields, halone, htype]

theorem replaceFields_sealed (h : m.validate = .ok ()) (armor : String → String) :
    Sealed p armor m (replaceFields p armor m) where
  title := rfl
  message := rfl
  attachment := if_congr (attachmentFields_of_validate h).1 rfl rfl
  attachmentBase64 := if_congr (attachmentFields_of_validate h).2 rfl rfl
  rest := rfl

/-- With nobody to encrypt for, there is no message. -/
theorem encrypt_unreadable (hp : p.isActive = true) (h : Unreadable c p.recipients) {x : Message × Bool} :
    encrypt c p m ≠ .ok x := by
  obtain ⟨e, he⟩ := unreadable_iff.1 h
  simp [encrypt, hp, he]

/-- What comes out of encryption is sealed, for the recipients that were read. -/
theorem encrypt_sealed (hp : p.isActive = true) (hvalid : m.validate = .ok ()) {recipients : List c.Recipient}
    (hread : readRecipients c p.recipients = .ok recipients) {b : Bool} (h : encrypt c p m = .ok (m', b)) :
    Sealed p (fun text => c.armor text recipients) m m' := by
  unfold encrypt at h
  simp only [hp, Bool.not_true, Bool.false_eq_true, if_false, hread] at h
  cases h
  exact replaceFields_sealed hvalid _

end Encryption
end Courier
