import Courier.Proofs.Outcome
import Courier.Proofs.Procedure.Alike
import Courier.Target.Apprise
import Courier.Target.Xmpp
/-
What the arguments of applications cannot change. They stand over those of a target, and may
set every key there is; but a target takes from its own arguments, and from them alone, how
it opens a session and which programs it runs, when it is loaded and as often as it opens a
session anew. Of what comes with a message, the chat network sees the address it goes to
and nothing else.

All that a target does in its lifetime is one course of action here, in which any task may
be given up at any question. So what two lifetimes have in common follows from the two
courses being the same one.
-/

namespace Courier

open Procedure

namespace Procedure

variable {Q : Type} {A : Q → Type} {α β : Type}

/-- A course that may be given up at any question; `left` is what is left then. -/
def givingUp (left : Q → β) : Procedure Q A (α × β) → Procedure Q (fun q => Option (A q)) (Option α × β)
  | .result r => .result (some r.1, r.2)
  | .ask q next => .ask q fun answer => answer.elim (.result (none, left q)) fun x => (next x).givingUp left

/-- Whether a course asks only some questions and comes only to some results, whatever is answered. -/
def Stays (P : Q → Prop) (R : α → Prop) : Procedure Q A α → Prop
  | .result a => R a
  | .ask q next => P q ∧ ∀ x, (next x).Stays P R

variable {P : Q → Prop} {R : α → Prop} {p : Procedure Q A α}

theorem Stays.only (h : p.Stays P R) : p.Only P := by
  induction p with
  | result a => trivial
  | ask q next ih => exact ⟨h.1, fun x => ih x (h.2 x)⟩

theorem Stays.bind {R' : β → Prop} {f : α → Procedure Q A β} (h : p.Stays P R) (hf : ∀ a, R a → (f a).Stays P R') :
    (p.bind f).Stays P R' := by
  induction p with
  | result a => exact hf a h
  | ask q next ih => exact ⟨h.1, fun x => ih x (h.2 x)⟩

/-- What is left of a course that is given up must be such a result too. -/
theorem Stays.givingUp {R : β → Prop} {left : Q → β} {p : Procedure Q A (α × β)} (h : p.Stays P fun r => R r.2)
    (hleft : ∀ q, P q → R (left q)) : (p.givingUp left).Stays P fun r => R r.2 := by
  induction p with
  | result r => exact h
  | ask q next ih =>
    refine ⟨h.1, fun x => ?_⟩
    cases x with
    | none => exact hleft q h.1
    | some x => exact ih x (h.2 x)

end Procedure

/-! ## Lifetimes -/

section

variable {Q β : Type} {A : Q → Type}

/-- All that a target does when it is asked one thing after the other, and what each came to. What is
left of it when a task is given up depends on the question, and on what it was when it was asked. -/
def lifetime (answer : β → BackendCall → Procedure Q A (Except BackendError Unit × β)) (left : β → Q → β) :
    β → List BackendCall → Procedure Q (fun q => Option (A q)) (List (Option (Except BackendError Unit)) × β)
  | b, [] => .result ([], b)
  | b, c :: cs =>
    ((answer b c).givingUp (left b)).bind fun r =>
      (lifetime answer left r.2 cs).bind fun rs => .result (r.1 :: rs.1, rs.2)

variable {answer : β → BackendCall → Procedure Q A (Except BackendError Unit × β)} {left : β → Q → β} {b : β}

/-- What every task keeps up, a lifetime does. -/
theorem lifetime_stays {P : Q → Prop} {R : β → Prop} (hanswer : ∀ b c, R b → (answer b c).Stays P fun r => R r.2)
    (hleft : ∀ b q, R b → P q → R (left b q)) (hb : R b) (cs : List BackendCall) :
    (lifetime answer left b cs).Stays P fun r => R r.2 := by
  induction cs generalizing b with
  | nil => exact hb
  | cons c cs ih =>
    refine ((hanswer b c hb).givingUp fun q hq => hleft b q hb hq).bind fun r hr => ?_
    exact (ih hr).bind fun rs hrs => hrs

/-- Tasks that a target does not tell apart make the same lifetime. -/
theorem lifetime_congr {cs cs' : List BackendCall} (h : List.Forall₂ (fun c c' => ∀ b, answer b c = answer b c') cs cs') :
    lifetime answer left b cs = lifetime answer left b cs' := by
  induction h generalizing b with
  | nil => rfl
  | cons hc _ ih =>
    rw [lifetime, lifetime, hc]
    exact congrArg _ (funext fun r => by rw [ih])

end

/-! ## On the chat network -/

namespace XmppBackend

/-- A lifetime on the chat network. -/
abbrev serving : XmppBackend → List BackendCall →
    Procedure ChatAsk (fun q => Option q.call.Answer) (List (Option (Except BackendError Unit)) × XmppBackend) :=
  lifetime answer fun _ q => q.left

variable {args : TargetArgs} {b : XmppBackend} {to_ body : String}

/-- Whether a target has these arguments, and goes by no other settings than those in them. -/
structure Own (args : TargetArgs) (b : XmppBackend) : Prop where
  same : b.args = args
  settings : ∀ st, b.settings = some st → XmppSettings.ofArgs args = .ok st

/-- Whether a question opens a session by nothing but these arguments, and what is left goes by them. -/
structure Within (args : TargetArgs) (q : ChatAsk) : Prop where
  connect : ∀ st, q.call = .connect st → XmppSettings.ofArgs args = .ok st
  left : Own args q.left

theorem Own.keeping (h : Own args b) (s : Option ChatSession) (n : Nat) :
    Own args { b with session := s, reconnects := n } :=
  ⟨h.same, h.settings⟩

/-- A question that opens no session. -/
theorem Own.within (h : Own args b) {c : ChatCall} (hc : ∀ st, c ≠ .connect st) : Within args ⟨c, b⟩ :=
  ⟨fun st he => absurd he (hc st), h⟩

theorem stays_connect (h : Own args b) : b.connect.Stays (Within args) fun r => Own args r.2 := by
  unfold connect
  split
  · exact h
  next st hst =>
  refine ⟨⟨fun st' he => ?_, h⟩, fun x => ?_⟩
  · cases he
    exact h.settings st hst
  · cases x with
    | ok s => exact h.keeping (some s) b.reconnects
    | error e => exact h

theorem stays_reconnect (h : Own args b) : b.reconnect.Stays (Within args) fun r => Own args r.2 := by
  have again {b : XmppBackend} (h : Own args b) :
      (Procedure.ask (A := fun q : ChatAsk => q.call.Answer) ⟨.reconnecting, b⟩ fun _ => b.connect).Stays (Within args)
        fun r => Own args r.2 :=
    ⟨h.within (by simp), fun _ => stays_connect h⟩
  unfold reconnect
  split
  · exact again (h.keeping b.session (b.reconnects + 1))
  · exact ⟨(h.keeping none b.reconnects).within (by simp), fun _ => again (h.keeping none (b.reconnects + 1))⟩

theorem stays_send (h : Own args b) : (b.send to_ body).Stays (Within args) fun _ => True := by
  unfold send
  split
  · trivial
  · exact ⟨h.within (by simp), fun _ => trivial⟩

theorem stays_probe (h : Own args b) : b.probe.Stays (Within args) fun _ => True := by
  unfold probe
  split
  · trivial
  · refine ⟨h.within (by simp), fun x => ?_⟩
    cases x <;> trivial

theorem stays_sendAfterReconnect (h : Own args b) :
    (b.sendAfterReconnect to_ body).Stays (Within args) fun r => Own args r.2 := by
  refine (stays_reconnect h).bind fun r hr => ?_
  obtain ⟨_ | _, b'⟩ := r
  · exact hr
  · exact (stays_send hr).bind fun _ _ => hr

theorem stays_deliver (h : Own args b) : (b.deliver to_ body).Stays (Within args) fun r => Own args r.2 := by
  refine (stays_probe h).bind fun alive _ => ?_
  cases alive with
  | true =>
    refine (stays_send h).bind fun x _ => ?_
    cases x with
    | ok _ => exact h
    | error e =>
      dsimp only
      split
      · exact stays_sendAfterReconnect h
      · exact h
  | false =>
    refine (stays_reconnect h).bind fun r hr => ?_
    obtain ⟨_ | _, b'⟩ := r
    · exact hr
    refine (stays_send hr).bind fun x _ => ?_
    cases x with
    | ok _ => exact hr
    | error e =>
      dsimp only
      split
      · exact Own.keeping hr none b'.reconnects
      · exact hr

/-- Whatever a target is asked, it goes by its own arguments. -/
theorem stays_answer (c : BackendCall) (h : Own args b) : (b.answer c).Stays (Within args) fun r => Own args r.2 := by
  cases c with
  | load =>
    simp only [answer]
    split
    · next st hst =>
      refine ⟨h.same, fun st' he => ?_⟩
      cases he
      rw [← h.same]
      exact hst
    · exact h
  | run => exact stays_connect h
  | execute m args =>
    simp only [answer]
    split
    · exact h
    · exact stays_deliver h
  | shutdown =>
    simp only [answer]
    split
    · exact h
    · exact ⟨(h.keeping none b.reconnects).within (by simp), fun _ => h.keeping none b.reconnects⟩

theorem own_made (args : TargetArgs) : Own args { args } := ⟨rfl, fun _ he => by cases he⟩

/-- Over its lifetime a target opens every session by the settings in its own arguments. -/
theorem serving_stays (args : TargetArgs) (cs : List BackendCall) :
    (serving { args } cs).Stays (Within args) fun r => Own args r.2 :=
  lifetime_stays (fun _ c h => stays_answer c h) (fun _ _ _ h => h.left) (own_made args) cs

/-- Whether two tasks differ in nothing but the arguments of a message, and not in the address among those. -/
inductive Redirects : BackendCall → BackendCall → Prop
  | same (c : BackendCall) : Redirects c c
  | execute (m : Message) {args args' : TargetArgs}
    (h : Json.Object.get? args "destination" = Json.Object.get? args' "destination") :
    Redirects (.execute m args) (.execute m args')

theorem Redirects.answer_eq {c c' : BackendCall} (h : Redirects c c') (b : XmppBackend) : b.answer c = b.answer c' := by
  cases h with
  | same => rfl
  | execute m h => simp only [answer, destination, TargetArgs.required, TargetArgs.text?, h]

end XmppBackend

/-! ## By commands -/

namespace AppriseBackend

/-- A lifetime of running commands. -/
abbrev serving : AppriseBackend → List BackendCall →
    Procedure Command (fun _ => Option CommandOutcome) (List (Option (Except BackendError Unit)) × AppriseBackend) :=
  lifetime answer fun b _ => b

variable {args : TargetArgs} {b : AppriseBackend}

/-- Whether a target has these arguments, and runs no other programs than those in them. -/
structure Own (args : TargetArgs) (b : AppriseBackend) : Prop where
  same : b.args = args
  notifier : ∀ n, b.notifier = some n → readNotifier args = .ok n

/-- Whether a command starts with the programs in these arguments. -/
def Within (args : TargetArgs) (c : Command) : Prop :=
  ∃ n rest, readNotifier args = .ok n ∧ c = ⟨n.interpreter, n.script :: rest⟩

theorem stays_answer (c : BackendCall) (h : Own args b) : (b.answer c).Stays (Within args) fun r => Own args r.2 := by
  cases c with
  | load =>
    simp only [answer]
    split
    · next n hn =>
      refine ⟨h.same, fun n' he => ?_⟩
      cases he
      rw [← h.same]
      exact hn
    · exact h
  | run | shutdown => exact h
  | execute m args =>
    simp only [answer]
    split
    · exact h
    next n hn =>
    split
    · exact h
    · exact ⟨⟨n, _, h.notifier n hn, rfl⟩, fun _ => h⟩

theorem own_made (args : TargetArgs) : Own args { args } := ⟨rfl, fun _ he => by cases he⟩

theorem serving_stays (args : TargetArgs) (cs : List BackendCall) :
    (serving { args } cs).Stays (Within args) fun r => Own args r.2 :=
  lifetime_stays (fun _ c h => stays_answer c h) (fun _ _ h _ => h) (own_made args) cs

/-- The interpreter in arguments, which is the usual one if none is given. -/
def interpreter (args : TargetArgs) : String := ((args.text? "interpreter").filter fun i => !i.isEmpty).getD "python"

theorem readNotifier_ok {n : Notifier} (h : readNotifier args = .ok n) :
    args.required "apprise" = .ok n.script ∧ n.interpreter = interpreter args := by
  obtain ⟨script, hscript, h⟩ := bind_ok.1 h
  dsimp only at h
  split at h
  on_goal 1 => obtain ⟨-, -, h⟩ := bind_ok.1 h
  -- the connection is checked and then left aside
  all_goals
    cases h
    refine ⟨hscript, ?_⟩
    unfold interpreter
    cases args.text? "interpreter" with
    | none => rfl
    | some i => by_cases hi : i.isEmpty <;> simp [Option.filter, hi, defaultInterpreter]

end AppriseBackend

/-! ## Both kinds -/

namespace Target

/-- **Applications cannot lead a target elsewhere.** Whatever a target is asked, and whatever comes of it, it opens
every session by the settings in its own arguments, and every command it runs starts with the interpreter and the
script that stand there. Two lifetimes whose tasks agree on the address of each message and on all else but
arguments are the same, call by call, in surroundings that answer alike. -/
theorem own_arguments (t : Target) :
    (∀ cs l r, (XmppBackend.serving { args := t.args } cs).Runs l r →
      ∀ q x st, ⟨q, x⟩ ∈ l → q.call = .connect st → XmppSettings.ofArgs t.args = .ok st) ∧
    (∀ cs l r, (AppriseBackend.serving { args := t.args } cs).Runs l r → ∀ c x, ⟨c, x⟩ ∈ l →
      ∃ script rest, t.args.required "apprise" = .ok script ∧
        c.program :: c.args = AppriseBackend.interpreter t.args :: script :: rest) ∧
    ∀ cs cs', List.Forall₂ XmppBackend.Redirects cs cs' → ∀ l l' r r',
      (XmppBackend.serving { args := t.args } cs).Runs l r → (XmppBackend.serving { args := t.args } cs').Runs l' r' →
        l.Agree l' → l = l' ∧ r = r' := by
  refine ⟨fun cs l r h q x st hx hst => ?_, fun cs l r h c x hx => ?_, fun cs cs' hcs l l' r r' h h' hagree => ?_⟩
  · exact ((XmppBackend.serving_stays t.args cs).only.runs h _ hx).connect st hst
  · obtain ⟨n, rest, hn, hc⟩ := (AppriseBackend.serving_stays t.args cs).only.runs h _ hx
    obtain ⟨hscript, hinterpreter⟩ := AppriseBackend.readNotifier_ok hn
    obtain rfl : c = ⟨n.interpreter, n.script :: rest⟩ := hc
    exact ⟨n.script, rest, hscript, by rw [hinterpreter]⟩
  · have hsame : XmppBackend.serving { args := t.args } cs = XmppBackend.serving { args := t.args } cs' :=
      lifetime_congr (hcs.imp fun _ _ hc => hc.answer_eq)
    rw [← hsame] at h'
    exact runs_unique h h' hagree

/-- A target with what both kinds of targets need. -/
def sampleSender : Target where
  id := "main"
  kind := "xmpp"
  args := [("apprise", .text "/usr/bin/apprise"), ("password", .text "secret"), ("server", .text "xmpp.example.org"),
    ("username", .text "relay@example.org")]

/-- What an application needs to give. -/
def samplePlain : TargetArgs := [("connection", .text "json://localhost"), ("destination", .text "ops@example.org")]

/-- What an application might give beside that. -/
def sampleGreedy : TargetArgs :=
  [("apprise", .text "/tmp/script"), ("connection", .text "json://localhost"), ("destination", .text "ops@example.org"),
    ("interpreter", .text "sh"), ("password", .text "guess"), ("server", .text "elsewhere.example.org"),
    ("tls", .bool false), ("username", .text "me@example.org")]

/-- A target is loaded and started, delivers a message for an application, and is shut down. -/
def sampleTasks (appArgs : TargetArgs) : List BackendCall :=
  [.load, .run, .execute { title := "Alert", message := "Disk full" } (sampleSender.mergeArgs appArgs), .shutdown]

/-- A network on which no session passes a probe. -/
def sampleNetwork : (q : ChatAsk) → Option q.call.Answer
  | ⟨.connect _, b⟩ => some (.ok b.reconnects)
  | ⟨.ping _, _⟩ => some (.error (.connection "reset"))
  | ⟨.send _ _ _, _⟩ | ⟨.close _, _⟩ => some (.ok ())
  | ⟨.reconnecting, _⟩ => some ()

/-- The servers at which sessions are opened in a lifetime on that network. -/
def sampleServers (appArgs : TargetArgs) : List String :=
  ((XmppBackend.serving { args := sampleSender.args } (sampleTasks appArgs)).logWith sampleNetwork).filterMap fun x =>
    match x.1.call with
    | .connect st => some st.host
    | _ => none

/-- The commands that the target runs in a lifetime in which all of them succeed. -/
def sampleCommands (appArgs : TargetArgs) : Log fun _ : Command => Option CommandOutcome :=
  (AppriseBackend.serving { args := sampleSender.args } (sampleTasks appArgs)).logWith
    fun _ => some (.finished (.code 0) [])

theorem connection_sample : AppriseBackend.connection (sampleSender.mergeArgs sampleGreedy) = .ok "json://localhost" := by
  have hparse : AppriseBackend.parseConnection "json://localhost" = .ok ⟨[.literal "json://localhost"], false⟩ := by
    rw [AppriseBackend.parseConnection, Template.parse, Template.partsFrom]
    rfl
  have hsource : (sampleSender.mergeArgs sampleGreedy).required "connection" = .ok "json://localhost" := rfl
  refine bind_ok.2 ⟨_, hsource, bind_ok.2 ⟨_, hparse, rfl⟩⟩

theorem commands_sample : (sampleCommands sampleGreedy).map (·.1) =
    [⟨"python", ["/usr/bin/apprise", "-vv", "-t", "Alert", "-b", "Disk full", "json://localhost"]⟩] := by
  have hload : AppriseBackend.answer { args := sampleSender.args } .load =
      .result (.ok (), { args := sampleSender.args, notifier := some ⟨"python", "/usr/bin/apprise"⟩ }) := rfl
  simp only [sampleCommands, AppriseBackend.serving, sampleTasks, lifetime, hload]
  dsimp only [givingUp, bind_result, AppriseBackend.answer]
  simp only [connection_sample]
  rfl

/-- The application that asks for another server, another account and other programs gets what the other one gets. -/
theorem sample_own_arguments :
    Json.Object.get? (sampleSender.mergeArgs sampleGreedy) "server" = some (.text "elsewhere.example.org") ∧
    sampleServers sampleGreedy = ["xmpp.example.org", "xmpp.example.org"] ∧
    (XmppBackend.serving { args := sampleSender.args } (sampleTasks samplePlain)).logWith sampleNetwork =
      (XmppBackend.serving { args := sampleSender.args } (sampleTasks sampleGreedy)).logWith sampleNetwork ∧
    ∃ c x, ⟨c, x⟩ ∈ sampleCommands sampleGreedy ∧
      ∃ script rest, sampleSender.args.required "apprise" = .ok script ∧ c.program :: c.args = "python" :: script :: rest := by
  obtain ⟨-, hcommands, hsame⟩ := own_arguments sampleSender
  have hruns (appArgs : TargetArgs) :=
    runs_logWith sampleNetwork (XmppBackend.serving { args := sampleSender.args } (sampleTasks appArgs))
  have hagree : Log.Agree
      ((XmppBackend.serving { args := sampleSender.args } (sampleTasks samplePlain)).logWith sampleNetwork)
      ((XmppBackend.serving { args := sampleSender.args } (sampleTasks sampleGreedy)).logWith sampleNetwork) :=
    Log.agree_of_answers (fun q x hx => (mem_logWith hx : x = some (sampleNetwork q))) fun _ _ hx => mem_logWith hx
  have hredirects : List.Forall₂ XmppBackend.Redirects (sampleTasks samplePlain) (sampleTasks sampleGreedy) :=
    .cons (.same _) (.cons (.same _) (.cons (.execute _ rfl) (.cons (.same _) .nil)))
  refine ⟨rfl, rfl, (hsame _ _ hredirects _ _ _ _ (hruns _) (hruns _) hagree).1, ?_⟩
  obtain ⟨⟨c, x⟩, hx, -⟩ := List.mem_map.1 (commands_sample ▸ List.mem_singleton.2 rfl)
  exact ⟨c, x, hx, hcommands _ _ _ (runs_logWith _ _) c x hx⟩

end Target
end Courier
