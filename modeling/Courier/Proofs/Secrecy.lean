import Courier.Proofs.Encryption
import Courier.Proofs.Service
import Courier.Proofs.Target.Registry
import Courier.Proofs.Worker.Verdict
/-
What the targets get to see of a message, from the request it came in by to the
calls of its target. Only a message that was checked is put on the queue, and a
worker reads the same message again, whenever and however often it has the task. So
what encryption does to messages that were checked is what it does to all of them.

A delivery goes on from the worker to the registry, which may refuse it; if a target
is called at all, then with the message that the worker handed over.
-/

namespace Courier

open Procedure

/-! ## What is put on the queue -/

/-- A task for a message that was checked. -/
structure Task.For (t : Task) (m : Message) : Prop where
  kind : t.kind = Task.messageKind
  written : t.payload = m.encode
  carried : Message.decode t.payload = .ok m
  valid : m.validate = .ok ()

namespace Service

/-- Whether only tasks for messages that were checked are put on the queue. -/
def Checks (l : ServiceLog) : Prop :=
  ∀ t x, (⟨.ingress (.enqueue t), x⟩ : (q : ServiceAsk) × Option q.Answer) ∈ l → ∃ m, t.For m

variable {s : Service} {r : HttpRequest} {l : ServiceLog} {response : Option HttpResponse}

theorem kept_checks (hdate : Extraction.Dates s.ingress.date) : s.Kept Checks where
  toAdditive := Log.additive_of_entries fun _ h => h
  quiet l h := fun _ _ hx => by cases h _ hx
  respond sub l r hruns t x hx := by
    have hx := (Log.mem_translate (f := ServiceAsk.ingress) fun _ _ h => ServiceAsk.ingress.inj h).1 hx
    obtain ⟨⟨sent, m, u, a, ha⟩, -⟩ := (Ingress.respond_tried hdate hruns).asked hx
    exact ⟨m, ha.kind, ha.written, ha.carried, ha.valid⟩

theorem handle_checks (hdate : Extraction.Dates s.ingress.date) (h : (s.handle r).Runs l response) : Checks l :=
  (kept_checks hdate).handle r l response h

end Service

/-! ## What a target is called for -/

namespace Registry

/-- A call that a course can make on a target, whatever state it finds the target in. -/
inductive Calls {α : Type} : RegistryWork α → String → BackendCall → Prop
  | now {id : String} {s : Section} {next : SectionOutcome → RegistryWork α} {state : Lifecycle} {log : Log BackendAnswer}
    {o : Option (SectionOutcome × Lifecycle)} {c : BackendCall} {x : Option (BackendAnswer c)}
    (h : (s.run state).Runs log o) (hc : ⟨c, x⟩ ∈ log) : Calls (.ask (.on id s) next) id c
  | later {id k : String} {s : Section} {next : SectionOutcome → RegistryWork α} {o : SectionOutcome} {c : BackendCall}
    (h : Calls (next o) k c) : Calls (.ask (.on id s) next) k c
  | count {n : Count} {next : Unit → RegistryWork α} {k : String} {c : BackendCall} (h : Calls (next ()) k c) :
    Calls (.ask (.count n) next) k c

/-- A delivery calls its own target, to deliver the message that was handed over. -/
theorem execute_calls {g : Registry} {id k : String} {m : Message} {args : TargetArgs} {c : BackendCall}
    (h : Calls (g.execute id m args) k c) : k = id ∧ c = .execute m args := by
  unfold execute at h
  split at h
  · cases h
  · cases h with
    | now hruns hc => exact ⟨rfl, Section.execute_asks hruns hc⟩
    | @later _ _ _ _ o _ h =>
      -- all that is left is to count
      cases o with
      | refused state => cases h
      | answered x =>
        cases x with
        | ok _ =>
          cases h with
          | count h => cases h
        | error e =>
          cases h with
          | count h =>
            cases h with
            | count h => cases h

end Registry

namespace Worker

variable {w : Worker} {t : Task} {m m' : Message} {l : WorkerLog} {r : Option (Except TaskFailure Unit)}

/-- A call of a target of a registry that comes of what a worker asks. -/
def Calls (g : Registry) (l : WorkerLog) (k : String) (c : BackendCall) : Prop :=
  ∃ id m args x, (⟨.deliver id m args, x⟩ : (q : WorkerAsk) × Option q.Answer) ∈ l ∧
    Registry.Calls (g.execute id m args) k c

theorem decode_of_carries (h : Carries t m) : decode t = .ok m := by
  rw [decode, if_neg (not_not.2 h.1), h.2]
  rfl

/-- Handling a task for a message is to deliver the message, and to count what came of it. -/
theorem handle_eq (h : decode t = .ok m) :
    w.handle t = (w.process m).bind fun e => .ask (.record (.of e)) fun _ => .result (reply e) := by
  unfold handle
  rw [h]
  refine congrArg (w.process m).bind (funext fun e => ?_)
  cases e <;> rfl

theorem handle_process (hm : Carries t m) (h : (w.handle t).Runs l r) :
    ∃ l₁ r₁, (w.process m).Runs l₁ r₁ ∧ (l = l₁ ∨ ∃ k y, l = l₁ ++ [⟨.record k, y⟩]) := by
  rw [handle_eq (decode_of_carries hm)] at h
  rcases runs_bind h with ⟨h₁, -⟩ | ⟨e, l₁, l₂, rfl, h₁, h₂⟩
  · exact ⟨l, none, h₁, .inl rfl⟩
  refine ⟨l₁, some e, h₁, .inr ?_⟩
  rcases runs_ask h₂ with ⟨rfl, -⟩ | ⟨y, l₃, rfl, h₃⟩
  · exact ⟨_, none, rfl⟩
  · obtain ⟨rfl, -⟩ := runs_result h₃
    exact ⟨_, some y, rfl⟩

/-- What is handed to a target is what encryption made of the message for the application that was found. -/
theorem handed_encrypted (hm : Carries t m) (h : (w.handle t).Runs l r) {id : String} {args : TargetArgs}
    {x : Option (Except RegistryError Unit)}
    (hx : (⟨.deliver id m' args, x⟩ : (q : WorkerAsk) × Option q.Answer) ∈ l) :
    ∃ a b, Found m l a ∧ Encryption.encrypt w.cipher a.encryptionPolicy m = .ok (m', b) := by
  obtain ⟨l₁, r₁, hprocess, hl⟩ := handle_process hm h
  rcases hl with rfl | ⟨k, y, rfl⟩
  · obtain ⟨a, g, b, haimed, -, -, hencrypt, -⟩ := (process_decided hprocess).gate _ _ _ _ hx
    exact ⟨a, b, haimed.1, hencrypt⟩
  · obtain ⟨a, g, b, haimed, -, -, hencrypt, -⟩ := (process_decided hprocess).gate _ _ _ _ (of_record (by simp) hx)
    exact ⟨a, b, told_record.2 haimed.1, hencrypt⟩

/-- One application is found. -/
theorem found_unique (hm : Carries t m) (h : (w.handle t).Runs l r) {a a' : Application} (ha : Found m l a)
    (ha' : Found m l a') : a = a' := by
  obtain ⟨l₁, r₁, hprocess, hl⟩ := handle_process hm h
  rcases hl with rfl | ⟨k, y, rfl⟩
  · cases (process_decided hprocess).told_unique ha ha'
    rfl
  · cases (process_decided hprocess).told_unique (told_record.1 ha) (told_record.1 ha')
    rfl

/-- Whether nothing of a message that an application encrypts is given away: with nobody to encrypt for no
target is called, and otherwise each that is called gets the message sealed. -/
structure Discreet (w : Worker) (m : Message) (a : Application) (l : WorkerLog) : Prop where
  silent : Encryption.Unreadable w.cipher a.encryptionPolicy.recipients → ∀ g id c, ¬ Calls g l id c
  covered : ¬ Encryption.Unreadable w.cipher a.encryptionPolicy.recipients →
    ∃ recipients, Encryption.ReadAs w.cipher a.encryptionPolicy.recipients recipients ∧
      ∀ g id c, Calls g l id c → ∃ m' args, c = .execute m' args ∧
        Encryption.Sealed a.encryptionPolicy (fun text => w.cipher.armor text recipients) m m'

theorem handle_discreet (hm : Carries t m) (hvalid : m.validate = .ok ()) (h : (w.handle t).Runs l r) {a : Application}
    (ha : Found m l a) (hactive : a.encryptionPolicy.isActive = true) : Discreet w m a l := by
  have encrypted {g : Registry} {id : String} {c : BackendCall} (hcalls : Calls g l id c) :
      ∃ m' args b, c = .execute m' args ∧ Encryption.encrypt w.cipher a.encryptionPolicy m = .ok (m', b) := by
    obtain ⟨k, m', args, x, hx, hcall⟩ := hcalls
    obtain ⟨-, rfl⟩ := Registry.execute_calls hcall
    obtain ⟨a', b, ha', hencrypt⟩ := handed_encrypted hm h hx
    obtain rfl := found_unique hm h ha ha'
    exact ⟨m', args, b, rfl, hencrypt⟩
  constructor
  · intro hnobody g id c hcalls
    obtain ⟨m', args, b, -, hencrypt⟩ := encrypted hcalls
    exact Encryption.encrypt_unreadable hactive hnobody hencrypt
  · intro hreadable
    cases hread : Encryption.readRecipients w.cipher a.encryptionPolicy.recipients with
    | error e => exact absurd (Encryption.unreadable_iff.2 ⟨e, hread⟩) hreadable
    | ok recipients =>
      refine ⟨recipients, Encryption.readAs_of_readRecipients hread, fun g id c hcalls => ?_⟩
      obtain ⟨m', args, b, rfl, hencrypt⟩ := encrypted hcalls
      exact ⟨m', args, rfl, Encryption.encrypt_sealed hactive hvalid hread hencrypt⟩

/-- **What an application encrypts reaches no target in the clear.** What a request put on the queue is for a
message that was checked, and whenever that is handled for an application that encrypts, nothing is given away. -/
theorem put_discreet {s : Service} (hdate : Extraction.Dates s.ingress.date) {request : HttpRequest}
    {log : Service.ServiceLog} {response : Option HttpResponse} (hserved : (s.handle request).Runs log response) {t : Task}
    {x : Option (Except QueueError Unit)}
    (hx : (⟨.ingress (.enqueue t), x⟩ : (q : ServiceAsk) × Option q.Answer) ∈ log) :
    ∃ m, t.For m ∧ ∀ t' : Task, t'.kind = t.kind → t'.payload = t.payload →
      ∀ (w : Worker) (l : WorkerLog) (r : Option (Except TaskFailure Unit)), (w.handle t').Runs l r →
        ∀ a : Application, Found m l a → a.encryptionPolicy.isActive = true → Discreet w m a l := by
  obtain ⟨m, hm⟩ := Service.handle_checks hdate hserved t x hx
  refine ⟨m, hm, fun t' hkind hpayload w l r hruns a ha hactive => ?_⟩
  have hcarries : Carries t' m := ⟨hkind.trans hm.kind, hpayload ▸ hm.carried⟩
  exact handle_discreet hcarries hm.valid hruns ha hactive

/-- A request that brings an attachment in base64, and the task for it. -/
def sampleAttachment : HttpRequest :=
  { Service.sampleRequest with
    body := Text.encode
      "\x7b\"token\":\"a\",\"message\":\"hi\",\"attachment_base64\":\"aGk=\",\"attachment_type\":\"text/plain\"\x7d" }

def sampleAttached : Message where
  token := "a"
  user := "u"
  message := "hi"
  attachmentBase64 := "aGk="
  attachmentType := "text/plain"

def sampleAttachedTask : Task := { sampleTask with payload := sampleAttached.encode }

/-- An application that encrypts its attachments, and a worker whose encryption can be told. -/
def sampleSecretive : Application where
  token := "a"
  encryptionType := .age
  encryptionRecipients := ["r"]
  encryptAttachment := true
  target := "t"

def sampleSealing : Worker := { cipher := ⟨Unit, fun _ => .ok (), fun text _ => "sealed " ++ text⟩ }

def sampleSecretiveAnswer : (q : WorkerAsk) → q.Answer
  | .store (.application _ _) => some (.ok sampleSecretive)
  | q => sampleAnswer q

theorem sampleAttachment_put :
    ∃ x, (⟨.ingress (.enqueue sampleAttachedTask), x⟩ : (q : ServiceAsk) × Option q.Answer) ∈
      (Service.sample.handle sampleAttachment).logWith Service.sampleAnswer := by
  have hput : ((Service.sample.handle sampleAttachment).logWith Service.sampleAnswer).any (fun x =>
      match x.1 with
      | .ingress (.enqueue t) => t == sampleAttachedTask
      | _ => false) = true := by decide +kernel
  obtain ⟨⟨q, x⟩, hx, hq⟩ := List.any_eq_true.1 hput
  dsimp only at hq
  split at hq
  · obtain rfl := eq_of_beq hq
    exact ⟨x, hx⟩
  · cases hq

theorem sampleAttached_decode : Message.decode sampleAttached.encode = .ok sampleAttached :=
  Message.decode_encode (by constructor <;> decide)

theorem sampleSealing_hands : ∃ m args x, (⟨.deliver "t" m args, x⟩ : (q : WorkerAsk) × Option q.Answer) ∈
    (sampleSealing.handle sampleAttachedTask).logWith sampleSecretiveAnswer := by
  have hdecode : decode sampleAttachedTask = .ok sampleAttached := decode_of_carries ⟨rfl, sampleAttached_decode⟩
  rw [handle_eq hdecode]
  have hhanded : (((sampleSealing.process sampleAttached).bind fun e =>
      .ask (.record (.of e)) fun _ => .result (reply e)).logWith sampleSecretiveAnswer).any (fun x =>
        match x.1 with
        | .deliver id _ _ => id == "t"
        | _ => false) = true := by decide +kernel
  obtain ⟨⟨q, x⟩, hx, hq⟩ := List.any_eq_true.1 hhanded
  dsimp only at hq
  split at hq
  · obtain rfl := eq_of_beq hq
    exact ⟨_, _, x, hx⟩
  · cases hq

theorem sample_sealed : ∃ log response x l r m' args,
    (Service.sample.handle sampleAttachment).Runs log response ∧
    (⟨.ingress (.enqueue sampleAttachedTask), x⟩ : (q : ServiceAsk) × Option q.Answer) ∈ log ∧
    (sampleSealing.handle sampleAttachedTask).Runs l r ∧ Calls ⟨[("t", .xmpp)]⟩ l "t" (.execute m' args) ∧
    m'.attachmentBase64 = "sealed aGk=" ∧
    Encryption.Sealed sampleSecretive.encryptionPolicy ("sealed " ++ ·) sampleAttached m' := by
  have hserved := runs_logWith Service.sampleAnswer (Service.sample.handle sampleAttachment)
  have hruns := runs_logWith sampleSecretiveAnswer (sampleSealing.handle sampleAttachedTask)
  obtain ⟨x, hx⟩ := sampleAttachment_put
  obtain ⟨m', args, y, hy⟩ := sampleSealing_hands
  obtain ⟨next, hexecute, -⟩ := Registry.execute_known (r := ⟨[("t", .xmpp)]⟩) m' args List.mem_cons_self
  have hwaits : ((Section.execute m' args).run .running).Runs [⟨.execute m' args, none⟩] none := .waits _ _
  have hcall : Calls ⟨[("t", .xmpp)]⟩ _ "t" (.execute m' args) :=
    ⟨"t", m', args, y, hy, hexecute ▸ .now hwaits List.mem_cons_self⟩
  obtain ⟨m, hm, hlater⟩ := put_discreet (fun _ _ h => by cases h) hserved hx
  obtain rfl : sampleAttached = m := Except.ok.inj (sampleAttached_decode.symm.trans hm.carried)
  obtain ⟨a, b, ha, -⟩ := handed_encrypted ⟨hm.kind, hm.carried⟩ hruns hy
  cases mem_logWith ha
  have hdiscreet := hlater sampleAttachedTask rfl rfl sampleSealing _ _ hruns sampleSecretive ha rfl
  have hreadable : ¬ Encryption.Unreadable sampleSealing.cipher sampleSecretive.encryptionPolicy.recipients := by
    simp [Encryption.Unreadable, sampleSealing, sampleSecretive, Application.encryptionPolicy]
  obtain ⟨recipients, -, hsealed⟩ := hdiscreet.covered hreadable
  obtain ⟨m₁, args₁, he, h⟩ := hsealed _ _ _ hcall
  cases he
  have hbase64 : m'.attachmentBase64 = "sealed aGk=" := h.attachmentBase64
  exact ⟨_, _, x, _, _, m', args, hserved, hx, hruns, hcall, hbase64, h⟩

end Worker
end Courier
