import Courier.Message.Validation
import Courier.Configuration.Failure
import Courier.Queue
import Courier.Target.Registry
import Courier.Tenant.Resolver
import Courier.Worker
/-
Errors as values: the name of the kind of error, its text, and what else is told
of it.
-/

namespace Courier.Rehearsal

open Json (Value Object)

/-- Errors that have a kind and a text. -/
class Reported (ε : Type) where
  kind : ε → String
  message : ε → String
  /-- What else is told of an error. -/
  marks : ε → Object := fun _ => []

/-- A report with a kind, a text and marks. -/
def reportOf (kind message : String) (marks : Object) : Value :=
  .object ([("error", .text kind), ("message", .text message)] ++ marks)

/-- An error as a value. -/
def report {ε : Type} [Reported ε] (e : ε) : Value := reportOf (Reported.kind e) (Reported.message e) (Reported.marks e)

/-- A text that cannot be read; all that is known is why. -/
instance : Reported String where
  kind _ := "Json"
  message s := s

instance : Reported Configuration.Failure where
  kind _ := "Config"
  message := Configuration.Failure.message

instance : Reported TemplateError where
  kind
    | .empty => "Empty" | .unterminated _ => "Unterminated" | .unknownFunction _ => "UnknownFunction"
    | .missingArgument _ => "MissingArgument" | .invalidPath _ => "InvalidPath"
  message := TemplateError.message

instance : Reported ValidationError where
  kind
    | .required _ => "Required" | .notPrintable _ => "NotPrintable" | .invalidHtml => "InvalidHtml"
    | .invalidPriority => "InvalidPriority" | .negativeTtl => "NegativeTtl" | .invalidUrl => "InvalidUrl"
    | .invalidBase64 => "InvalidBase64" | .missingAttachmentType => "MissingAttachmentType"
    | .conflictingAttachments => "ConflictingAttachments"
  message := ValidationError.message

instance : Reported BackendError where
  kind
    | .config _ => "Config" | .connection _ => "Connection" | .delivery _ => "Delivery" | .timeout _ => "Timeout"
    | .io _ => "Io" | .notReady _ => "NotReady"
  message := BackendError.message
  marks e := [("connection_loss", .bool e.isConnectionLoss)]

instance : Reported EncryptionError where
  kind
    | .invalidRecipient _ _ => "InvalidRecipient" | .noRecipients => "NoRecipients" | .unknownType _ => "UnknownType"
  message := EncryptionError.message

instance : Reported RepositoryError where
  kind
    | .notFound => "NotFound" | .timeout _ => "Timeout" | .database _ => "Database" | .invalidData _ => "InvalidData"
    | .unavailable _ => "Unavailable"
  message := RepositoryError.message
  marks e := [("not_found", .bool e.isNotFound)]

instance : Reported ResolveError where
  kind
    | .userNotFound => "UserNotFound" | .applicationNotFound => "ApplicationNotFound"
    | .targetNotFound _ => "TargetNotFound" | .repository _ => "Repository"
  message := ResolveError.message
  marks e := [("not_found", .bool e.isNotFound)]

instance : Reported RegistryError where
  kind
    | .unsupported _ _ => "Unsupported" | .unknownTarget _ => "UnknownTarget" | .notRunning _ _ => "NotRunning"
    | .backend _ _ => "Backend" | .shutdown _ => "Shutdown"
  message := RegistryError.message

/-- A failure as its kind and its reason. -/
def failureValue : TaskFailure → Value
  | .retry r => .array [.text "retry", .text r]
  | .fatal r => .array [.text "fatal", .text r]

instance : Reported TaskError where
  kind
    | .malformed _ => "Malformed" | .resolution _ => "Resolution" | .encryption _ => "Encryption"
    | .delivery _ => "Delivery" | .unsupportedKind _ => "UnsupportedKind"
  message := TaskError.message
  marks e := [("retryable", .bool e.isRetryable), ("failure", failureValue e.failure)]

instance : Reported QueueError where
  kind
    | .redis _ => "Redis" | .serialization _ => "Serialization" | .unavailable _ => "Unavailable"
  message := QueueError.message

end Courier.Rehearsal
