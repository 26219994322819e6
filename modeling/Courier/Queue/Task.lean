import Courier.Uuid
import Courier.Calendar.Rfc3339
import Courier.Json.Decoder
import Courier.Json.Render
/-
Tasks: what stands on the queue. A task carries a message in its written form
and counts how often it was tried again; a dead letter is a task that was given
up, with the reason.
-/

namespace Courier

open Json (Value Layout Field Whole)
open Calendar (Moment)

structure Task where
  id : Uuid
  kind : String
  /-- A message in its written form. -/
  payload : String
  /-- How often the task was tried again. -/
  attempts : Nat := 0
  enqueuedAt : Moment
  deriving DecidableEq, Repr, Inhabited

/-- A task that was given up. -/
structure DeadLetter where
  task : Task
  reason : String
  failedAt : Moment
  deriving DecidableEq, Repr, Inhabited

/-- The greatest number of attempts. -/
def Task.maxAttempts : Nat := 2 ^ 32 - 1

/-- The kind of task that delivers a message. -/
def Task.messageKind : String := "message"

section

variable {D : Type → Type} [Layout D]

/-- The form of an identifier. -/
def Uuid.layout : D Uuid :=
  Layout.parsed "a UUID string" fun s =>
    match Uuid.parse s with
    | .ok u => .ok u
    | .error e => .error ("UUID parsing failed: " ++ e.message)

/-- The form of a moment. -/
def Calendar.Moment.layout : D Moment :=
  Layout.parsed "an RFC 3339 formatted date and time string" fun s =>
    match Calendar.Rfc3339.read s.toList with
    | .ok t => .ok t
    | .error e => .error e.message

def Task.layout : D Task :=
  Layout.record "Task" { id := ⟨0⟩, kind := "", payload := "", enqueuedAt := Moment.epoch }
    [.required "id" Uuid.layout fun v t => { t with id := v },
     .required "kind" Layout.text fun v t => { t with kind := v },
     .required "payload" Layout.text fun v t => { t with payload := v },
     .optional "attempts" (Layout.whole Whole.u32) fun v t => { t with attempts := v.toNat },
     .required "enqueued_at" Calendar.Moment.layout fun v t => { t with enqueuedAt := v }]

def DeadLetter.layout : D DeadLetter :=
  Layout.record "DeadLetter" ⟨default, "", Moment.epoch⟩
    [.required "task" Task.layout fun v d => { d with task := v },
     .required "reason" Layout.text fun v d => { d with reason := v },
     .required "failed_at" Calendar.Moment.layout fun v d => { d with failedAt := v }]

end

/-- A moment in its written form. -/
def Calendar.Moment.text (t : Moment) : String := String.ofList (Calendar.Rfc3339.write t)

namespace Task

def toValue (t : Task) : Value :=
  .object
    [("id", .text t.id.text), ("kind", .text t.kind), ("payload", .text t.payload),
     ("attempts", .int t.attempts), ("enqueued_at", .text t.enqueuedAt.text)]

/-- The written form of a task. -/
def encode (t : Task) : String := t.toValue.compact

/-- Reads a task. -/
def decode (s : String) : Except String Task := Json.Decoder.ofString layout s

/-- The task as it is tried once more. The count has 32 bits. -/
def next (t : Task) : Task := { t with attempts := (t.attempts + 1) % 2 ^ 32 }

end Task

namespace DeadLetter

def toValue (d : DeadLetter) : Value :=
  .object [("task", d.task.toValue), ("reason", .text d.reason), ("failed_at", .text d.failedAt.text)]

def encode (d : DeadLetter) : String := d.toValue.compact

def decode (s : String) : Except String DeadLetter := Json.Decoder.ofString layout s

end DeadLetter
end Courier
