import Courier.Proofs.Outcome
import Courier.Proofs.Target.Xmpp.Calls
/-
One delivery over a chat network. A text is handed to the network once, or once more
over a new session if the one that had just passed the probe is lost meanwhile; there
is no third time, whatever the network answers. A session that is lost is dropped, but
for the one over which a text is lost the second time.
-/

namespace Courier

open Procedure

namespace XmppBackend

open ChatCall

variable {b : XmppBackend} {to_ body : String} {l : ChatLog} {r : Option (Except BackendError Unit × XmppBackend)}

/-! ## What a delivery amounts to -/

section

variable {k : Log Answer} {b' : XmppBackend} {e : BackendError}

theorem Closing.quiet {s : Option ChatSession} (h : Closing s k) : pings k = [] ∧ connects k = [] ∧ sends k = [] := by
  cases h <;> exact ⟨rfl, rfl, rfl⟩

/-- To open a session anew the network is asked for one at most once, and nothing is sent. -/
theorem Reconnection.quiet (h : Reconnection b k r) : pings k = [] ∧ (connects k).length ≤ 1 ∧ sends k = [] := by
  cases h with
  | closing hb => exact ⟨rfl, Nat.zero_le _, rfl⟩
  | counting hbefore | asking hbefore | unknown hbefore | refused hbefore | opened hbefore =>
    obtain ⟨hpings, hconnects, hsends⟩ := hbefore.quiet
    simp [hpings, hconnects, hsends]

/-- Whoever knows how to open a session asked for one before giving up, and has none then. -/
theorem Reconnection.failed (h : Reconnection b k (some (.error e, b'))) :
    b' = b.renewing ∧ (b.settings ≠ none → (connects k).length = 1) := by
  cases h with
  | unknown _ hb => exact ⟨rfl, fun hsettings => absurd hb hsettings⟩
  | refused hbefore =>
    obtain ⟨-, hconnects, -⟩ := hbefore.quiet
    rw [connects_append, hconnects]
    exact ⟨rfl, fun _ => rfl⟩

variable {after : XmppBackend → Except BackendError Unit → XmppBackend} {x : Except BackendError Unit}

/-- Over a new session a text is sent at most once, and what comes of that is what comes of all. -/
theorem Renewal.sends_cases (h : Renewal b to_ body after k r) :
    sends k = [] ∧ (∀ x b', r = some (x, b') → (∃ e, x = .error e) ∧ b'.session = none) ∨
      ∃ s y, sends k = [⟨s, to_, body, y⟩] ∧
        r = y.map fun y => (y, after { b.renewing with session := some s } y) := by
  cases h with
  | waiting h => exact .inl ⟨h.quiet.2.2, fun x b' hr => by cases hr⟩
  | @failed _ e b' h =>
    refine .inl ⟨h.quiet.2.2, fun x b'' hr => ?_⟩
    cases hr
    exact ⟨⟨e, rfl⟩, congrArg session h.failed.1⟩
  | @sent _ _ s hbefore _ y => exact .inr ⟨s, y, by simp [hbefore.quiet.2.2], rfl⟩

/-- The one way in which a text is sent twice, call by call. -/
def Resent (b : XmppBackend) (to_ body : String) (k : Log Answer) : Prop :=
  ∃ s s' st e x y, b.session = some s ∧ b.settings = some st ∧ e.isConnectionLoss = true ∧
    k = [⟨.ping s, some (.ok ())⟩, ⟨.send s to_ body, some (.error e)⟩, ⟨.close s, some x⟩,
      ⟨.reconnecting, some ()⟩, ⟨.connect st, some (.ok s')⟩, ⟨.send s' to_ body, y⟩]

theorem Renewal.sends_le (h : Renewal b to_ body after k r) : (sends k).length ≤ 1 := by
  rcases h.sends_cases with ⟨hsends, -⟩ | ⟨s, y, hsends, -⟩ <;> simp [hsends]

/-- What is sent if the text was lost over the old session. -/
theorem sends_lost {s : ChatSession} : sends (⟨.ping s, some (.ok ())⟩ :: ⟨.send s to_ body, some (.error e)⟩ :: k) =
    ⟨s, to_, body, some (.error e)⟩ :: sends k := rfl

theorem Delivery.sends_le (h : Delivery b to_ body k r) : (sends k).length ≤ 2 := by
  cases h with
  | probing => exact Nat.zero_le 2
  | sent => exact Nat.le_succ 1
  | anew _ h | unfit _ h => exact Nat.le_succ_of_le h.sends_le
  | lost _ _ h => exact Nat.succ_le_succ h.sends_le

/-- A text is sent twice in one way only. -/
theorem Delivery.resent (h : Delivery b to_ body k r) (htwice : (sends k).length = 2) : Resent b to_ body k := by
  cases h with
  | probing | sent => cases htwice
  | anew _ h | unfit _ h =>
    have hle : 2 ≤ 1 := htwice ▸ h.sends_le
    omega
  | @lost s e _ _ hb he h =>
    cases h with
    | waiting h | failed h =>
      simp [h.quiet.2.2] at htwice
    | @sent before st s' hbefore hsettings y =>
      rw [hb] at hbefore
      cases hbefore with
      | some x => exact ⟨s, s', st, e, x, y, hb, hsettings, he, rfl⟩

theorem Renewal.text (h : Renewal b to_ body after k r) : ∀ y ∈ sends k, y.to_ = to_ ∧ y.body = body := by
  intro y hy
  rcases h.sends_cases with ⟨hsends, -⟩ | ⟨s, z, hsends, -⟩
  · rw [hsends] at hy
    cases hy
  · rw [hsends, List.mem_singleton] at hy
    exact hy ▸ ⟨rfl, rfl⟩

theorem Delivery.text (h : Delivery b to_ body k r) : ∀ y ∈ sends k, y.to_ = to_ ∧ y.body = body := by
  cases h with
  | probing => simp
  | anew _ h | unfit _ h => exact h.text
  | sent => simp
  | lost _ _ h => simpa using h.text

/-- A delivery that ends with the loss of a session leaves the target without one, unless it sent twice. -/
theorem Delivery.connected_iff (h : Delivery b to_ body k (some (.error e, b'))) (he : e.isConnectionLoss = true) :
    b'.isConnected = false ↔ (sends k).length ≤ 1 := by
  have disconnected (hb : b'.session = none) : b'.isConnected = false := by simp [isConnected, hb]
  generalize hr : some (Except.error e, b') = r at h
  cases h with
  | probing => cases hr
  | anew _ h | unfit _ h =>
    refine iff_of_true (disconnected ?_) h.sends_le
    rcases h.sends_cases with ⟨-, hnone⟩ | ⟨s, y, -, hy⟩
    · exact (hnone _ _ hr.symm).2
    · rw [← hr] at hy
      cases y with
      | none => cases hy
      | some y =>
        cases hy
        simp [dropping, he]
  | @sent s y hb hy =>
    cases y with
    | none => cases hr
    | some y =>
      cases hr
      have hsettled := hy e rfl
      rw [he] at hsettled
      cases hsettled
  | lost _ _ h =>
    rw [sends_lost]
    rcases h.sends_cases with ⟨hsends, hnone⟩ | ⟨s, y, hsends, hy⟩
    · exact iff_of_true (disconnected (hnone _ _ hr.symm).2) (by simp [hsends])
    · rw [← hr] at hy
      cases y with
      | none => cases hy
      | some y =>
        cases hy
        simp [hsends, isConnected]

end

/-! ## Messages and their destination -/

/-- Whether arguments name no destination that a text can go to. -/
def Unaddressed (args : TargetArgs) : Prop :=
  ∀ d, args.text? "destination" = some d → d = "" ∨ ∃ e, Address.parse d = .error e

variable {m : Message} {args : TargetArgs}

theorem checkAddress_ok {what d : String} : XmppSettings.checkAddress what d = .ok () ↔ ∃ a, Address.parse d = .ok a := by
  unfold XmppSettings.checkAddress
  cases Address.parse d <;> simp

theorem required_ok {key d : String} : args.required key = .ok d ↔ args.text? key = some d ∧ d ≠ "" := by
  unfold TargetArgs.required
  cases args.text? key with
  | none => simp
  | some t =>
    by_cases ht : t = ""
    · subst ht
      simp
    · simp only [String.isEmpty_iff, ht, if_false, Except.ok.injEq, Option.some.injEq]
      exact ⟨fun he => ⟨he, he ▸ ht⟩, fun he => he.1⟩

theorem destination_ok {d : String} : destination args = .ok d ↔
    args.text? "destination" = some d ∧ d ≠ "" ∧ ∃ a, Address.parse d = .ok a := by
  unfold destination
  rw [bind_ok]
  constructor
  · rintro ⟨d', hrequired, hrest⟩
    obtain ⟨_, hcheck, hd⟩ := bind_ok.1 hrest
    cases hd
    obtain ⟨htext, hne⟩ := required_ok.1 hrequired
    exact ⟨htext, hne, checkAddress_ok.1 hcheck⟩
  · rintro ⟨htext, hne, haddress⟩
    exact ⟨d, required_ok.2 ⟨htext, hne⟩, bind_ok.2 ⟨(), checkAddress_ok.2 haddress, rfl⟩⟩

/-- Arguments that name no destination are an error of their own kind. -/
theorem destination_error {e : BackendError} (h : destination args = .error e) : ∃ text, e = .config text := by
  rcases bind_error.1 h with hrequired | ⟨d, -, hrest⟩
  · unfold TargetArgs.required at hrequired
    split at hrequired
    · split at hrequired
      · cases hrequired
        exact ⟨_, rfl⟩
      · cases hrequired
    · cases hrequired
      exact ⟨_, rfl⟩
  · rcases bind_error.1 hrest with hcheck | ⟨_, -, hok⟩
    · unfold XmppSettings.checkAddress at hcheck
      split at hcheck
      · cases hcheck
      · cases hcheck
        exact ⟨_, rfl⟩
    · cases hok

theorem unaddressed_iff : Unaddressed args ↔ ∀ d, destination args ≠ .ok d := by
  constructor
  · intro h d hd
    obtain ⟨htext, hne, a, ha⟩ := destination_ok.1 hd
    rcases h d htext with rfl | ⟨e, he⟩
    · exact hne rfl
    · rw [ha] at he
      cases he
  · intro h d htext
    by_contra hnot
    obtain ⟨hne, haddress⟩ := not_or.1 hnot
    cases ha : Address.parse d with
    | error e => exact haddress ⟨e, ha⟩
    | ok a => exact h d (destination_ok.2 ⟨htext, hne, a, ha⟩)

theorem execute_cases (h : (b.answer (.execute m args)).Runs l r) :
    Unaddressed args ∧ l = [] ∧ (∃ text, r = some (.error (.config text), b)) ∨
      ∃ d, destination args = .ok d ∧ Delivery b d m.toText l.calls r := by
  simp only [answer] at h
  split at h
  · next e hd =>
    obtain ⟨rfl, rfl⟩ := runs_result h
    obtain ⟨text, rfl⟩ := destination_error hd
    exact .inl ⟨unaddressed_iff.2 fun d hok => by simp [hd] at hok, rfl, text, rfl⟩
  · next d hd => exact .inr ⟨d, hd, deliver_cases h⟩

/-- What holds of the calls of a delivery, be it done or given up on the way. -/
structure Bounded (b : XmppBackend) (m : Message) (args : TargetArgs) (l : ChatLog)
    (r : Option (Except BackendError Unit × XmppBackend)) : Prop where
  pings : (ChatCall.pings l.calls).length ≤ 1
  connects : (ChatCall.connects l.calls).length ≤ 1
  sends : (ChatCall.sends l.calls).length ≤ 2
  /-- A text is sent again only over a new session, after the old one passed the probe and was lost. -/
  resent : (ChatCall.sends l.calls).length = 2 →
    ∃ d, args.text? "destination" = some d ∧ Resent b d m.toText l.calls
  text : ∀ y ∈ ChatCall.sends l.calls, args.text? "destination" = some y.to_ ∧ y.body = m.toText
  once : ((ChatCall.sends l.calls).filter Sending.arrived).length ≤ 1
  /-- The delivery succeeds just if the last text that was sent went out. -/
  ok : ∀ x b', r = some (x, b') → (x = .ok () ↔ ∃ y, (ChatCall.sends l.calls).getLast? = some y ∧ y.arrived = true)
  counted : ∀ x b', r = some (x, b') → b'.reconnects = b.reconnects + (ChatCall.connects l.calls).length
  unaddressed : Unaddressed args → l = [] ∧ ∃ text, r = some (.error (.config text), b)

/-- **A session that was lost is dropped, unless the text was sent twice**: then the target keeps the
session over which the second one was lost. -/
theorem disconnected_iff_not_resent {e : BackendError} {b' : XmppBackend}
    (h : (b.answer (.execute m args)).Runs l (some (.error e, b'))) (hloss : e.isConnectionLoss = true) :
    b'.isConnected = false ↔ (sends l.calls).length ≤ 1 := by
  rcases execute_cases h with ⟨-, -, text, hr⟩ | ⟨d, -, hdelivery⟩
  · cases hr
    cases hloss
  · exact hdelivery.connected_iff hloss

/-- A target with a session. -/
def sample : XmppBackend where
  args := []
  settings := some ⟨"xmpp.example.org", 5222, "relay@example.org", "secret"⟩
  session := some 0

def sampleArgs : TargetArgs := [("destination", .text "ops@example.org")]

/-- A network that opens sessions over which nothing can be sent. -/
def sampleAnswer (alive : Bool) : (q : ChatAsk) → q.call.Answer
  | ⟨.connect _, _⟩ => .ok 1
  | ⟨.ping _, _⟩ => if alive then .ok () else .error (.timeout (Duration.ofSeconds 5))
  | ⟨.send _ _ _, _⟩ => .error (.connection "reset")
  | ⟨.close _, _⟩ => .ok ()
  | ⟨.reconnecting, _⟩ => ()

def sampleMessage : Message := { title := "Alert", message := "Disk full" }

/-- A delivery over that network. -/
def sampleLog (alive : Bool) : ChatLog := (sample.answer (.execute sampleMessage sampleArgs)).logWith (sampleAnswer alive)

/-- A session that fails the probe is replaced, and the new one is lost; one that passes it is lost, and
so is the one after it. -/
theorem sample_runs (alive : Bool) : (sample.answer (.execute sampleMessage sampleArgs)).Runs (sampleLog alive)
    (some (.error (.connection "reset"), { sample with session := if alive then some 1 else none, reconnects := 1 })) := by
  cases alive <;> exact runs_logWith (sampleAnswer _) _

/-- A session that is lost right after it was opened is dropped. -/
theorem sample_disconnected : (sends (sampleLog false).calls).length = 1 ∧
    ∃ b', (sample.answer (.execute sampleMessage sampleArgs)).Runs (sampleLog false)
      (some (.error (.connection "reset"), b')) ∧ b'.isConnected = false :=
  ⟨rfl, _, sample_runs false, (disconnected_iff_not_resent (sample_runs false) rfl).2 (Nat.le_refl 1)⟩

/-- A session over which a text is lost for the second time is kept. -/
theorem not_every_loss_disconnects : ¬ ∀ b m args (l : ChatLog) e b',
    (answer b (.execute m args)).Runs l (some (.error e, b')) → e.isConnectionLoss = true → b'.isConnected = false := by
  intro hall
  have hconnected := hall _ _ _ _ _ _ (sample_runs true) rfl
  cases hconnected

end XmppBackend
end Courier
