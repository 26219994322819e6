import Courier.Proofs.Target.Xmpp.Calls
/-
The sessions of one target on the chat network, over all that it is ever asked to do. It
probes, uses and closes no session but the one that was opened last, and that one only
as long as it kept hold of it. So no session is used after it was closed or let go.

What carries the proof is that a target keeps no session but such a one (`Holds`). Every
part of its work is followed question by question (`Keeps`): each session that is asked
for must be at hand then, and if no answer comes, what is left must hold a good one too.
-/

namespace Courier.XmppBackend

open Procedure

/-- What is seen of a target on the chat network at one time: a call with its answer, or
none between two of its tasks, and the session that the target keeps hold of. -/
structure Sight where
  call : Option ((c : ChatCall) × Option c.Answer)
  kept : Option ChatSession

namespace Sight

def asked (q : ChatAsk) (x : Option q.call.Answer) : Sight := ⟨some ⟨q.call, x⟩, q.left.session⟩

def rest (b : XmppBackend) : Sight := ⟨none, b.session⟩

/-- The session that a call goes to. -/
def used? (y : Sight) : Option ChatSession :=
  match y.call with
  | some ⟨.ping s, _⟩ | some ⟨.send s _ _, _⟩ | some ⟨.close s, _⟩ => some s
  | _ => none

/-- The session that was opened. -/
def opened? (y : Sight) : Option ChatSession :=
  match y.call with
  | some ⟨.connect _, some (.ok s)⟩ => some s
  | _ => none

/-- The session that was to be closed, whatever came of it. -/
def closed? (y : Sight) : Option ChatSession :=
  match y.call with
  | some ⟨.close s, _⟩ => some s
  | _ => none

/-- Whether a session is the one that was opened last, and the target kept hold of it and did
not close it since. The latest sight comes first. -/
def Current (past : List Sight) (s : ChatSession) : Prop :=
  ∃ since opening before, past = since ++ opening :: before ∧ opening.opened? = some s ∧
    ∀ y ∈ since, y.kept = some s ∧ y.opened? = none ∧ y.closed? = none

/-- Whether every session was current when it was used. -/
def Disciplined : List Sight → Prop
  | [] => True
  | y :: past => (∀ s, y.used? = some s → Current past s) ∧ Disciplined past

variable {past : List Sight} {y : Sight} {s : ChatSession}

theorem used?_asked (q : ChatAsk) (x : Option q.call.Answer) : (asked q x).used? = (asked q none).used? := by
  obtain ⟨c, b⟩ := q
  cases c <;> rfl

theorem used?_of_closed? (h : y.closed? = some s) : y.used? = some s := by
  obtain ⟨_ | ⟨c, x⟩, k⟩ := y
  · cases h
  · cases c <;> first | exact h | cases h

theorem opened?_of_closed? (h : y.closed? = some s) : y.opened? = none := by
  obtain ⟨_ | ⟨c, x⟩, k⟩ := y
  · cases h
  · cases c <;> first | rfl | cases h

theorem Current.opened (h : y.opened? = some s) : Current (y :: past) s :=
  ⟨[], y, past, rfl, h, fun z hz => by cases hz⟩

theorem Current.cons (h : Current past s) (hkept : y.kept = some s) (hopened : y.opened? = none)
    (hclosed : y.closed? = none) : Current (y :: past) s := by
  obtain ⟨since, opening, before, rfl, hopening, hsince⟩ := h
  refine ⟨y :: since, opening, before, rfl, hopening, fun z hz => ?_⟩
  rcases List.mem_cons.1 hz with rfl | hz
  · exact ⟨hkept, hopened, hclosed⟩
  · exact hsince z hz

theorem Disciplined.at {later earlier : List Sight} (h : Disciplined (later ++ y :: earlier)) (hy : y.used? = some s) :
    Current earlier s := by
  induction later with
  | nil => exact h.1 s hy
  | cons z later ih => exact ih h.2

theorem Disciplined.suffix {later earlier : List Sight} (h : Disciplined (later ++ earlier)) : Disciplined earlier := by
  induction later with
  | nil => exact h
  | cons z later ih => exact ih h.2

/-- A session that is closed was opened. -/
theorem Disciplined.opened_of_closed (h : Disciplined past) (hs : s ∈ past.filterMap closed?) :
    s ∈ past.filterMap opened? := by
  obtain ⟨y, hy, hclosed⟩ := List.mem_filterMap.1 hs
  obtain ⟨later, earlier, rfl⟩ := List.append_of_mem hy
  obtain ⟨since, opening, before, rfl, hopening, -⟩ := h.at (used?_of_closed? hclosed)
  exact List.mem_filterMap.2 ⟨opening, by simp, hopening⟩

/-- If no two sessions have the same number, no session is closed twice. -/
theorem Disciplined.closed_nodup (h : Disciplined past) (hopened : (past.filterMap opened?).Nodup) :
    (past.filterMap closed?).Nodup := by
  induction past with
  | nil => exact List.nodup_nil
  | cons y past ih =>
    cases hclosed : y.closed? with
    | none =>
      rw [List.filterMap_cons_none hclosed]
      refine ih h.2 (hopened.sublist ?_)
      exact ((List.sublist_cons_self y past).filterMap opened?)
    | some s =>
      rw [List.filterMap_cons_none (opened?_of_closed? hclosed)] at hopened
      rw [List.filterMap_cons_some hclosed]
      refine List.nodup_cons.2 ⟨fun hs => ?_, ih h.2 hopened⟩
      obtain ⟨since, opening, before, rfl, hopening, hsince⟩ := h.1 s (used?_of_closed? hclosed)
      rw [List.filterMap_append, List.filterMap_cons_some hopening] at hopened
      have hbefore : Disciplined before := (Disciplined.suffix h.2).2
      -- what closed it before was before it was opened, and so it was opened twice
      refine (List.nodup_cons.1 (List.nodup_append.1 hopened).2.1).1 (hbefore.opened_of_closed ?_)
      obtain ⟨z, hz, hzclosed⟩ := List.mem_filterMap.1 hs
      refine List.mem_filterMap.2 ⟨z, ?_, hzclosed⟩
      rcases List.mem_append.1 hz with hz | hz
      · rw [(hsince z hz).2.2] at hzclosed
        cases hzclosed
      rcases List.mem_cons.1 hz with rfl | hz
      · rw [opened?_of_closed? hzclosed] at hopening
        cases hopening
      · exact hz

end Sight

open Sight

/-- What is seen during some work. -/
def sights (l : ChatLog) : List Sight := (l.map fun x => asked x.1 x.2).reverse

/-- All that was seen of a target since it was made, and what it is now. A task that is given up
leaves the target as it was at the last question. -/
inductive Life (args : TargetArgs) : List Sight → XmppBackend → Prop
  | made : Life args [] { args }
  | answered {past : List Sight} {b b' : XmppBackend} {c : BackendCall} {l : ChatLog} {x : Except BackendError Unit}
    (h : Life args past b) (hruns : (b.answer c).Runs l (some (x, b'))) :
    Life args (rest b' :: (sights l ++ past)) b'
  | givenUp {past : List Sight} {b : XmppBackend} {c : BackendCall} {l : ChatLog} {q : ChatAsk} (h : Life args past b)
    (hruns : (b.answer c).Runs (l ++ [⟨q, none⟩]) none) :
    Life args (rest q.left :: (sights (l ++ [⟨q, none⟩]) ++ past)) q.left

/-! ## Work on sessions that are at hand -/

/-- Whether the session that is kept hold of, if there is one, is the current one. -/
def Holds (past : List Sight) (kept : Option ChatSession) : Prop := ∀ s, kept = some s → Current past s

theorem holds_none {past : List Sight} : Holds past none := fun s hs => by cases hs

/-- A question that neither opens nor closes a session changes nothing. -/
theorem Holds.asked {past : List Sight} {q : ChatAsk} {x : Option q.call.Answer} (h : Holds past q.left.session)
    (hopened : (asked q x).opened? = none) (hclosed : (asked q x).closed? = none) :
    Holds (asked q x :: past) q.left.session :=
  fun s hs => (h s hs).cons hs hopened hclosed

theorem Holds.rest {past : List Sight} {b : XmppBackend} (h : Holds past b.session) : Holds (rest b :: past) b.session :=
  fun s hs => (h s hs).cons hs rfl rfl

/-- Whether some work uses only sessions that are current then, and comes to what `Q` says; and
what is left of the target if it is given up holds no other session. -/
def Keeps {α : Type} (Q : List Sight → α → Prop) : List Sight → ChatWork α → Prop
  | past, .result a => Q past a
  | past, .ask q next => (∀ s, (asked q none).used? = some s → Current past s) ∧
    Holds (asked q none :: past) q.left.session ∧ ∀ x, Keeps Q (asked q (some x) :: past) (next x)

section

variable {α β : Type} {Q : List Sight → α → Prop} {past : List Sight} {p : ChatWork α} {l : ChatLog}

theorem Keeps.bind {Q' : List Sight → β → Prop} {f : α → ChatWork β} (h : Keeps Q past p)
    (hf : ∀ past a, Q past a → Keeps Q' past (f a)) : Keeps Q' past (p.bind f) := by
  induction p generalizing past with
  | result a => exact hf past a h
  | ask q next ih => exact ⟨h.1, h.2.1, fun x => ih x (h.2.2 x)⟩

theorem sights_cons {q : ChatAsk} {x : Option q.call.Answer} :
    sights (⟨q, x⟩ :: l) ++ past = sights l ++ asked q x :: past := by
  simp [sights]

/-- Work that uses only current sessions leaves nothing but such uses behind. -/
theorem Keeps.disciplined {r : Option α} (h : Keeps Q past p) (hpast : Disciplined past) (hruns : p.Runs l r) :
    Disciplined (sights l ++ past) := by
  induction hruns generalizing past with
  | result a => exact hpast
  | waits q next => exact ⟨h.1, hpast⟩
  | @answered q next l r x _ ih =>
    rw [sights_cons]
    refine ih (h.2.2 x) ⟨fun s hs => h.1 s ?_, hpast⟩
    rwa [← used?_asked]

theorem Keeps.result {r : Option α} (h : Keeps Q past p) (hruns : p.Runs l r) {a : α} (hr : r = some a) :
    Q (sights l ++ past) a := by
  induction hruns generalizing past with
  | result a' =>
    cases hr
    exact h
  | waits q next => cases hr
  | @answered q next l r x _ ih =>
    rw [sights_cons]
    exact ih (h.2.2 x) hr

/-- Work that is given up leaves a target that holds no other session than the current one. -/
theorem Keeps.left {r : Option α} {q : ChatAsk} (h : Keeps Q past p) (hruns : p.Runs (l ++ [⟨q, none⟩]) r) :
    Holds (sights (l ++ [⟨q, none⟩]) ++ past) q.left.session := by
  generalize hl : l ++ [⟨q, none⟩] = l' at hruns
  induction hruns generalizing past l with
  | result a => simp at hl
  | waits q' next =>
    obtain ⟨rfl, hq⟩ := List.append_eq_singleton_iff.1 hl |>.resolve_right (by simp)
    cases hq
    exact h.2.1
  | @answered q' next l' r x _ ih =>
    cases l with
    | nil => cases hl
    | cons y l =>
      obtain ⟨rfl, hrest⟩ := List.cons.inj hl
      rw [sights_cons]
      exact ih (h.2.2 x) hrest

end

section

variable {b : XmppBackend} {to_ body : String} {past : List Sight}

/-! ## The parts of the work -/

/-- What the parts of a target's work come to: a target that holds no other session than the current one. -/
def Held (past : List Sight) (r : Except BackendError Unit × XmppBackend) : Prop := Holds past r.2.session

theorem keeps_connect (h : Holds past b.session) : Keeps Held past b.connect := by
  unfold connect
  split
  · exact h
  next st _ =>
  refine ⟨fun s hs => (by cases hs), h.asked rfl rfl, fun x => ?_⟩
  cases x with
  | ok s =>
    intro s' hs'
    cases hs'
    exact .opened rfl
  | error e =>
    have hrefused : Holds (asked ⟨.connect st, b⟩ (some (.error e)) :: past) b.session := h.asked rfl rfl
    exact hrefused

theorem keeps_reconnect (h : Holds past b.session) : Keeps Held past b.reconnect := by
  have again {b : XmppBackend} {past : List Sight} (hb : b.session = none) :
      Keeps Held past (.ask ⟨.reconnecting, b⟩ fun _ => b.connect) := by
    refine ⟨fun s hs => (by cases hs), hb ▸ holds_none, fun _ => keeps_connect (hb ▸ holds_none)⟩
  unfold reconnect
  split
  · next hsession => exact again hsession
  · next s hsession =>
    refine ⟨fun s' hs' => ?_, holds_none, fun _ => again rfl⟩
    cases hs'
    exact h s hsession

theorem keeps_send (h : Holds past b.session) : Keeps (fun past _ => Holds past b.session) past (b.send to_ body) := by
  unfold send
  split
  · exact h
  next s hsession =>
  refine ⟨fun s' hs' => ?_, h.asked rfl rfl, fun x => ?_⟩
  · cases hs'
    exact h s hsession
  · have hsent : Holds (asked ⟨.send s to_ body, b⟩ (some x) :: past) b.session := h.asked rfl rfl
    exact hsent

theorem keeps_probe (h : Holds past b.session) : Keeps (fun past _ => Holds past b.session) past b.probe := by
  unfold probe
  split
  · exact h
  next s hsession =>
  refine ⟨fun s' hs' => ?_, h.asked rfl rfl, fun x => ?_⟩
  · cases hs'
    exact h s hsession
  · have hprobed : Holds (asked ⟨.ping s, b⟩ (some x) :: past) b.session := h.asked rfl rfl
    cases x <;> exact hprobed

theorem keeps_sendAfterReconnect (h : Holds past b.session) : Keeps Held past (b.sendAfterReconnect to_ body) := by
  refine (keeps_reconnect h).bind fun past r hr => ?_
  obtain ⟨_ | _, b'⟩ := r
  · exact hr
  · exact (keeps_send hr).bind fun past x hx => hx

theorem keeps_deliver (h : Holds past b.session) : Keeps Held past (b.deliver to_ body) := by
  refine (keeps_probe h).bind fun past alive h => ?_
  cases alive with
  | true =>
    refine (keeps_send h).bind fun past x h => ?_
    cases x with
    | ok _ => exact h
    | error e =>
      dsimp only
      split
      · exact keeps_sendAfterReconnect h
      · exact h
  | false =>
    refine (keeps_reconnect h).bind fun past r hr => ?_
    obtain ⟨_ | _, b'⟩ := r
    · exact hr
    refine (keeps_send hr).bind fun past x h => ?_
    cases x with
    | ok _ => exact h
    | error e =>
      -- a session that was lost is let go
      dsimp only
      split
      · exact holds_none
      · exact h

/-- Whatever a target is asked, it uses no session but the current one. -/
theorem keeps_answer (c : BackendCall) (h : Holds past b.session) : Keeps Held past (b.answer c) := by
  cases c with
  | load =>
    simp only [answer]
    split <;> exact h
  | run => exact keeps_connect h
  | execute m args =>
    simp only [answer]
    split
    · exact h
    · exact keeps_deliver h
  | shutdown =>
    simp only [answer]
    split
    · exact h
    next s hsession =>
    refine ⟨fun s' hs' => ?_, holds_none, fun _ => holds_none⟩
    cases hs'
    exact h s hsession

/-! ## Shutting down -/

theorem shutdown_cases {l : ChatLog} {x : Except BackendError Unit} {b' : XmppBackend}
    (h : (b.answer .shutdown).Runs l (some (x, b'))) : b'.session = none := by
  simp only [answer] at h
  split at h
  · next hsession =>
    obtain ⟨-, hr⟩ := runs_result h
    cases hr
    exact hsession
  · rcases runs_ask h with ⟨-, hr⟩ | ⟨y, l', -, h₁⟩
    · cases hr
    obtain ⟨-, hr⟩ := runs_result h₁
    cases hr
    rfl

theorem shutdown_idle (h : b.session = none) : b.answer .shutdown = .result (.ok (), b) := by
  simp only [answer, h]

end

namespace Life

variable {args : TargetArgs} {past : List Sight} {b : XmppBackend}

/-- Over its whole life, a target uses current sessions only, and holds no other. -/
theorem disciplined (h : Life args past b) : Disciplined past ∧ Holds past b.session := by
  induction h with
  | made => exact ⟨trivial, holds_none⟩
  | @answered past b b' c l x _ hruns ih =>
    have hkeeps := keeps_answer c ih.2
    have hheld : Holds (sights l ++ past) b'.session := hkeeps.result hruns rfl
    exact ⟨⟨fun s hs => (by cases hs), hkeeps.disciplined ih.1 hruns⟩, hheld.rest⟩
  | @givenUp past b c l q _ hruns ih =>
    have hkeeps := keeps_answer c ih.2
    exact ⟨⟨fun s hs => (by cases hs), hkeeps.disciplined ih.1 hruns⟩, (hkeeps.left hruns).rest⟩

/-- **A session is used only while it is the current one**: the one that was opened last, which the target
kept hold of and did not close since. So none is closed twice, and after a shutdown none is left. -/
theorem sessions_current (h : Life args past b) :
    (∀ later y earlier s, past = later ++ y :: earlier → y.used? = some s → Current earlier s) ∧
      ((past.filterMap opened?).Nodup → (past.filterMap closed?).Nodup) ∧
      (∀ l x b', (b.answer .shutdown).Runs l (some (x, b')) → b'.session = none) ∧
      (b.session = none → b.answer .shutdown = .result (.ok (), b)) := by
  obtain ⟨hdisciplined, -⟩ := h.disciplined
  refine ⟨fun later y earlier s hpast hy => ?_, hdisciplined.closed_nodup, fun _ _ _ => shutdown_cases,
    shutdown_idle⟩
  subst hpast
  exact hdisciplined.at hy

/-- A target in its configuration. -/
def sampleArgs : TargetArgs :=
  [("password", .text "secret"), ("server", .text "xmpp.example.org:5222"), ("username", .text "relay@example.org")]

def sampleDelivery : BackendCall :=
  .execute { title := "Alert", message := "Disk full" } [("destination", .text "ops@example.org")]

/-- A network that loses the first session as soon as it is used, and closes none in good order. -/
def sampleAnswer : (q : ChatAsk) → q.call.Answer
  | ⟨.connect _, b⟩ => .ok b.reconnects
  | ⟨.ping _, _⟩ => .ok ()
  | ⟨.send s _ _, _⟩ => if s = 0 then .error (.connection "reset") else .ok ()
  | ⟨.close _, _⟩ => .error (.io "broken pipe")
  | ⟨.reconnecting, _⟩ => ()

/-- A target that was asked some things over that network, with what was seen of it. -/
def sampleLife : List BackendCall → List Sight × XmppBackend
  | [] => ([], { args := sampleArgs })
  | c :: earlier =>
    let w := sampleLife earlier
    let b := ((w.2.answer c).run (m := Id) sampleAnswer).2
    (rest b :: (sights ((w.2.answer c).logWith sampleAnswer) ++ w.1), b)

theorem sample_life (cs : List BackendCall) : Life sampleArgs (sampleLife cs).1 (sampleLife cs).2 := by
  induction cs with
  | nil => exact .made
  | cons c earlier ih => exact ih.answered (runs_logWith sampleAnswer _)

/-- A target is loaded and started, delivers a message over its second session, and is shut down. -/
theorem sample_sessions_current : ∃ past b, Life sampleArgs past b ∧ past.filterMap used? = [1, 1, 0, 0, 0] ∧
    (past.filterMap opened?).Nodup ∧ past.filterMap closed? = [1, 0] ∧ (past.filterMap closed?).Nodup ∧
      ∀ later y earlier s, past = later ++ y :: earlier → y.used? = some s → Current earlier s := by
  have h := sample_life [.shutdown, sampleDelivery, .run, .load]
  have hopened : (sampleLife [.shutdown, sampleDelivery, .run, .load]).1.filterMap opened? = [1, 0] := rfl
  obtain ⟨hcurrent, hclosed, -⟩ := sessions_current h
  have hnodup : ((sampleLife [.shutdown, sampleDelivery, .run, .load]).1.filterMap opened?).Nodup := by
    rw [hopened]
    decide
  exact ⟨_, _, h, rfl, hnodup, rfl, hclosed hnodup, hcurrent⟩

end Life

end Courier.XmppBackend
