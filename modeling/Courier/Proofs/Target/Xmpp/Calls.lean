import Courier.Target.Xmpp
import Courier.Proofs.Procedure
/-
The calls to a chat network that the parts of a delivery make. For each part there are a
few ways in which it can go, with the calls of each and what becomes of the target:
opening a session anew (`Reconnection`), sending over a new session (`Renewal`), and the
delivery as a whole (`Delivery`).
-/

namespace Courier

open Procedure

/-- What a target on the chat network asked, with the answers. -/
abbrev ChatLog : Type := Log fun q : ChatAsk => q.call.Answer

/-- The calls to the network in a log. -/
def ChatLog.calls (l : ChatLog) : Log ChatCall.Answer := Log.translate ChatAsk.call l

@[simp] theorem ChatLog.calls_nil : ChatLog.calls [] = [] := rfl

@[simp] theorem ChatLog.calls_cons {q : ChatAsk} {x : Option q.call.Answer} {l : ChatLog} :
    ChatLog.calls (⟨q, x⟩ :: l) = ⟨q.call, x⟩ :: ChatLog.calls l := rfl

@[simp] theorem ChatLog.calls_append {l l' : ChatLog} : ChatLog.calls (l ++ l') = l.calls ++ l'.calls := List.map_append

/-- A text that was handed to a session, and what came of it. -/
structure Sending where
  session : ChatSession
  to_ : String
  body : String
  answer : Option (Except BackendError Unit)

/-- Whether the network took the text. -/
def Sending.arrived (x : Sending) : Bool :=
  match x.answer with
  | some (.ok ()) => true
  | _ => false

namespace ChatCall

/-- What came of a probe. -/
@[simp] def ping? : (c : ChatCall) × Option c.Answer → Option (Option (Except BackendError Unit))
  | ⟨.ping _, x⟩ => some x
  | _ => none

/-- What came of an attempt to open a session. -/
@[simp] def connect? : (c : ChatCall) × Option c.Answer → Option (Option (Except BackendError ChatSession))
  | ⟨.connect _, x⟩ => some x
  | _ => none

/-- What came of a text that was handed over. -/
@[simp] def send? : (c : ChatCall) × Option c.Answer → Option Sending
  | ⟨.send s to_ body, x⟩ => some ⟨s, to_, body, x⟩
  | _ => none

def pings (l : Log Answer) : List (Option (Except BackendError Unit)) := l.filterMap ping?

def connects (l : Log Answer) : List (Option (Except BackendError ChatSession)) := l.filterMap connect?

def sends (l : Log Answer) : List Sending := l.filterMap send?

section

variable {x : (c : ChatCall) × Option c.Answer} {l l' : Log Answer}

@[simp] theorem pings_nil : pings [] = [] := rfl

@[simp] theorem pings_cons : pings (x :: l) = (ping? x).toList ++ pings l := by
  rw [pings, List.filterMap_cons]
  cases ping? x <;> rfl

@[simp] theorem pings_append : pings (l ++ l') = pings l ++ pings l' := List.filterMap_append

@[simp] theorem connects_nil : connects [] = [] := rfl

@[simp] theorem connects_cons : connects (x :: l) = (connect? x).toList ++ connects l := by
  rw [connects, List.filterMap_cons]
  cases connect? x <;> rfl

@[simp] theorem connects_append : connects (l ++ l') = connects l ++ connects l' := List.filterMap_append

@[simp] theorem sends_nil : sends [] = [] := rfl

@[simp] theorem sends_cons : sends (x :: l) = (send? x).toList ++ sends l := by
  rw [sends, List.filterMap_cons]
  cases send? x <;> rfl

@[simp] theorem sends_append : sends (l ++ l') = sends l ++ sends l' := List.filterMap_append

end

end ChatCall

namespace XmppBackend

open ChatCall

variable {b : XmppBackend} {to_ body : String} {l : ChatLog} {r : Option (Except BackendError Unit × XmppBackend)}
  {r' : Option (Except BackendError Unit)}

/-! ## Opening a session -/

/-- A target after an attempt to open a session. -/
def opened (b : XmppBackend) : Except BackendError ChatSession → Except BackendError Unit × XmppBackend
  | .ok s => (.ok (), { b with session := some s })
  | .error e => (.error e, b)

/-- A target that is about to open a session anew. -/
def renewing (b : XmppBackend) : XmppBackend := { b with session := none, reconnects := b.reconnects + 1 }

theorem connect_cases (h : b.connect.Runs l r) :
    b.settings = none ∧ l = [] ∧ r = some (.error (.notReady "load"), b) ∨
      ∃ st x, b.settings = some st ∧ l.calls = [⟨.connect st, x⟩] ∧ r = x.map b.opened := by
  unfold connect at h
  split at h
  · next hsettings =>
    obtain ⟨rfl, rfl⟩ := runs_result h
    exact .inl ⟨hsettings, rfl, rfl⟩
  next st hsettings =>
  rcases runs_ask h with ⟨rfl, rfl⟩ | ⟨x, l', rfl, h₁⟩
  · exact .inr ⟨st, none, hsettings, rfl, rfl⟩
  · refine .inr ⟨st, some x, hsettings, ?_⟩
    cases x with
    | ok s =>
      obtain ⟨rfl, rfl⟩ := runs_result h₁
      exact ⟨rfl, rfl⟩
    | error e =>
      obtain ⟨rfl, rfl⟩ := runs_result h₁
      exact ⟨rfl, rfl⟩

/-- How a target gives up the session it has, if it has one. -/
inductive Closing : Option ChatSession → Log Answer → Prop
  | none : Closing none []
  | some {s : ChatSession} (x : Except BackendError Unit) : Closing (some s) [⟨.close s, Option.some x⟩]

/-- How opening a session anew can go: the network gives no answer, or nothing is known of how to
open one, or the network refuses, or there is a new session. -/
inductive Reconnection (b : XmppBackend) : Log Answer → Option (Except BackendError Unit × XmppBackend) → Prop
  | closing {s : ChatSession} (hb : b.session = some s) : Reconnection b [⟨.close s, none⟩] none
  | counting {before : Log Answer} (hbefore : Closing b.session before) :
    Reconnection b (before ++ [⟨.reconnecting, none⟩]) none
  | asking {before : Log Answer} {st : XmppSettings} (hbefore : Closing b.session before) (hb : b.settings = some st) :
    Reconnection b (before ++ [⟨.reconnecting, some ()⟩, ⟨.connect st, none⟩]) none
  | unknown {before : Log Answer} (hbefore : Closing b.session before) (hb : b.settings = none) :
    Reconnection b (before ++ [⟨.reconnecting, some ()⟩]) (some (.error (.notReady "load"), b.renewing))
  | refused {before : Log Answer} {st : XmppSettings} (hbefore : Closing b.session before) (hb : b.settings = some st)
    (e : BackendError) :
    Reconnection b (before ++ [⟨.reconnecting, some ()⟩, ⟨.connect st, some (.error e)⟩])
      (some (.error e, b.renewing))
  | opened {before : Log Answer} {st : XmppSettings} (hbefore : Closing b.session before) (hb : b.settings = some st)
    (s : ChatSession) :
    Reconnection b (before ++ [⟨.reconnecting, some ()⟩, ⟨.connect st, some (.ok s)⟩])
      (some (.ok (), { b.renewing with session := some s }))

theorem reconnect_cases (h : b.reconnect.Runs l r) : Reconnection b l.calls r := by
  -- what comes after the old session was closed, if there was one
  have again (before : Log Answer) (hbefore : Closing b.session before) {b' : XmppBackend} (hb' : b' = b.renewing)
      {l : ChatLog} (h : Runs (Q := ChatAsk) (A := fun q => q.call.Answer) (.ask ⟨.reconnecting, b'⟩ fun _ => b'.connect) l r) :
      Reconnection b (before ++ l.calls) r := by
    subst hb'
    rcases runs_ask h with ⟨rfl, rfl⟩ | ⟨_, l', rfl, h₁⟩
    · exact .counting hbefore
    rcases connect_cases h₁ with ⟨hsettings, rfl, rfl⟩ | ⟨st, x, hsettings, hcalls, rfl⟩
    · exact .unknown hbefore hsettings
    · rw [ChatLog.calls_cons, hcalls]
      rcases x with _ | e | s
      · exact .asking hbefore hsettings
      · exact .refused hbefore hsettings e
      · exact .opened hbefore hsettings s
  unfold reconnect at h
  cases hsession : b.session with
  | none =>
    rw [hsession] at h
    refine again [] (hsession ▸ .none) ?_ h
    rw [renewing, hsession]
  | some s =>
    rw [hsession] at h
    rcases runs_ask h with ⟨rfl, rfl⟩ | ⟨x, l', rfl, h₁⟩
    · exact .closing hsession
    · exact again [⟨.close s, some x⟩] (hsession ▸ .some x) rfl h₁

/-! ## Sending over a new session -/

/-- How sending over a session that is opened anew can go: it ends before there is one, or the text is
handed to it once. What becomes of the target with the answer is left open. -/
inductive Renewal (b : XmppBackend) (to_ body : String) (after : XmppBackend → Except BackendError Unit → XmppBackend) :
    Log Answer → Option (Except BackendError Unit × XmppBackend) → Prop
  | waiting {l : Log Answer} (h : Reconnection b l none) : Renewal b to_ body after l none
  | failed {l : Log Answer} {e : BackendError} {b' : XmppBackend} (h : Reconnection b l (some (.error e, b'))) :
    Renewal b to_ body after l (some (.error e, b'))
  | sent {before : Log Answer} {st : XmppSettings} {s : ChatSession} (hbefore : Closing b.session before)
    (hb : b.settings = some st) (y : Option (Except BackendError Unit)) :
    Renewal b to_ body after
      (before ++ [⟨.reconnecting, some ()⟩, ⟨.connect st, some (.ok s)⟩, ⟨.send s to_ body, y⟩])
      (y.map fun y => (y, after { b.renewing with session := some s } y))

/-- What a target is after a text over a new session: a session that was lost is dropped. -/
def dropping (b : XmppBackend) : Except BackendError Unit → XmppBackend
  | .ok () => b
  | .error e => if e.isConnectionLoss then { b with session := none } else b

theorem runs_send (h : (b.send to_ body).Runs l r') {s : ChatSession} (hb : b.session = some s) :
    ∃ y, l.calls = [⟨.send s to_ body, y⟩] ∧ r' = y := by
  simp only [send, hb] at h
  rcases runs_ask h with ⟨rfl, rfl⟩ | ⟨y, l', rfl, h₁⟩
  · exact ⟨none, rfl, rfl⟩
  · obtain ⟨rfl, rfl⟩ := runs_result h₁
    exact ⟨some y, rfl, rfl⟩

theorem renewal_cases {next : Except BackendError Unit × XmppBackend → ChatWork (Except BackendError Unit × XmppBackend)}
    {finish : XmppBackend → Except BackendError Unit → ChatWork (Except BackendError Unit × XmppBackend)}
    {after : XmppBackend → Except BackendError Unit → XmppBackend} (h : (b.reconnect.bind next).Runs l r)
    (hfailed : ∀ e b', next (.error e, b') = .result (.error e, b'))
    (hopened : ∀ b', next (.ok (), b') = (b'.send to_ body).bind (finish b'))
    (hfinish : ∀ b' y, finish b' y = .result (y, after b' y)) : Renewal b to_ body after l.calls r := by
  rcases runs_bind h with ⟨h₁, rfl⟩ | ⟨⟨x, b'⟩, l₁, l₂, rfl, h₁, h₂⟩
  · exact .waiting (reconnect_cases h₁)
  have hreconnect := reconnect_cases h₁
  rw [ChatLog.calls_append]
  cases x with
  | error e =>
    rw [hfailed] at h₂
    obtain ⟨rfl, rfl⟩ := runs_result h₂
    simpa using Renewal.failed hreconnect
  | ok _ =>
    generalize ChatLog.calls l₁ = k at hreconnect ⊢
    cases hreconnect with
    | opened hbefore hsettings s =>
      rw [hopened] at h₂
      rcases runs_bind h₂ with ⟨h₃, rfl⟩ | ⟨y, l₃, l₄, rfl, h₃, h₄⟩
      · obtain ⟨y, hcalls, rfl⟩ := runs_send h₃ rfl
        rw [hcalls, List.append_assoc]
        exact .sent hbefore hsettings none
      · obtain ⟨y', hcalls, rfl⟩ := runs_send h₃ rfl
        rw [hfinish] at h₄
        obtain ⟨rfl, rfl⟩ := runs_result h₄
        rw [List.append_nil, hcalls, List.append_assoc]
        exact .sent hbefore hsettings (some y)

/-! ## Deliveries -/

/-- Whether an answer leaves no doubt of the session. -/
def Settled (y : Option (Except BackendError Unit)) : Prop := ∀ e, y = some (.error e) → e.isConnectionLoss = false

/-- How a delivery can go: the probe is not answered; there is no session that passes it, and the
text goes over a new one; the text goes over the old one; or that is lost, and the text goes
once more over a new one. -/
inductive Delivery (b : XmppBackend) (to_ body : String) : Log Answer → Option (Except BackendError Unit × XmppBackend) → Prop
  | probing {s : ChatSession} (hb : b.session = some s) : Delivery b to_ body [⟨.ping s, none⟩] none
  | anew {l : Log Answer} {r : Option (Except BackendError Unit × XmppBackend)} (hb : b.session = none)
    (h : Renewal b to_ body dropping l r) : Delivery b to_ body l r
  | unfit {s : ChatSession} {e : BackendError} {l : Log Answer} {r : Option (Except BackendError Unit × XmppBackend)}
    (hb : b.session = some s) (h : Renewal b to_ body dropping l r) :
    Delivery b to_ body (⟨.ping s, some (.error e)⟩ :: l) r
  | sent {s : ChatSession} {y : Option (Except BackendError Unit)} (hb : b.session = some s) (hy : Settled y) :
    Delivery b to_ body [⟨.ping s, some (.ok ())⟩, ⟨.send s to_ body, y⟩] (y.map fun y => (y, b))
  | lost {s : ChatSession} {e : BackendError} {l : Log Answer} {r : Option (Except BackendError Unit × XmppBackend)}
    (hb : b.session = some s) (he : e.isConnectionLoss = true) (h : Renewal b to_ body (fun b _ => b) l r) :
    Delivery b to_ body (⟨.ping s, some (.ok ())⟩ :: ⟨.send s to_ body, some (.error e)⟩ :: l) r

theorem deliver_cases (h : (b.deliver to_ body).Runs l r) : Delivery b to_ body l.calls r := by
  unfold deliver at h
  cases hsession : b.session with
  | none =>
    simp only [probe, hsession] at h
    exact .anew hsession (renewal_cases h (fun _ _ => rfl) (fun _ => rfl) fun b' y => by cases y <;> rfl)
  | some s =>
    simp only [probe, hsession] at h
    rcases runs_ask h with ⟨rfl, rfl⟩ | ⟨x, l', rfl, h₁⟩
    · exact .probing hsession
    cases x with
    | error e => exact .unfit hsession (renewal_cases h₁ (fun _ _ => rfl) (fun _ => rfl) fun b' y => by cases y <;> rfl)
    | ok _ =>
      rcases runs_bind (p := b.send to_ body) h₁ with ⟨h₂, rfl⟩ | ⟨y, l₁, l₂, rfl, h₂, h₃⟩
      · obtain ⟨y, hcalls, rfl⟩ := runs_send h₂ hsession
        rw [ChatLog.calls_cons, hcalls]
        exact .sent hsession fun e he => by cases he
      obtain ⟨y', hcalls, rfl⟩ := runs_send h₂ hsession
      rw [ChatLog.calls_cons, ChatLog.calls_append, hcalls]
      cases y with
      | ok _ =>
        obtain ⟨rfl, rfl⟩ := runs_result h₃
        exact .sent (y := some (.ok ())) hsession fun e he => by cases he
      | error e =>
        dsimp only at h₃
        split at h₃
        · next he => exact .lost hsession he (renewal_cases h₃ (fun _ _ => rfl) (fun _ => rfl) fun _ _ => rfl)
        · next he =>
          obtain ⟨rfl, rfl⟩ := runs_result h₃
          refine .sent (y := some (.error e)) hsession fun e' he' => ?_
          cases he'
          simpa using he

end XmppBackend
end Courier
