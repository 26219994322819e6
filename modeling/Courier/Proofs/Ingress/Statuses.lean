import Courier.Proofs.Ingress
import Courier.Proofs.Tenant.Roster
/-
What a submission comes to when the store answers and the queue takes every task.
Whatever was sent, and whatever the format of the application makes of it, the
submission is taken in, or refused for what was sent, or refused because its token
leads to nothing; and the last is so exactly when the token could be read, is well
formed, and leads to nothing in the store. No other refusal is possible, for those
come from the store and from the queue only.
-/

namespace Courier.Ingress

open Procedure

/-- The status that an outcome gets. -/
def statusOf : Except Refusal Unit → Nat
  | .ok () => 200
  | .error e => e.status

/-- Whether an answer is one of a store that has the given records, or of a queue that takes every task. -/
def Obliging (known : Roster) : (q : IngressAsk) → q.Answer → Prop
  | .store c, x => known.Answers c x
  | .enqueue _, x => x = .ok ()
  | .stamp, _ | .count _, _ => True

/-- Whether the token of a submission can be read and is well formed, and leads to nothing. -/
def Unknown (known : Roster) (s : Submission) : Prop :=
  ∃ sent, message? s = .ok sent ∧ Message.isPrintable (tokenOf s sent) = true ∧
    known.Lacks (s.route == .submit) (tokenOf s sent)

/-- What an outcome can be: taken in, or refused for what was sent, or refused because the token leads to nothing. -/
structure Judged (known : Roster) (s : Submission) (x : Except Refusal Unit) : Prop where
  status : statusOf x = 200 ∨ statusOf x = 400 ∨ statusOf x = 404
  missing : statusOf x = 404 ↔ Unknown known s

variable {known : Roster} {g : Ingress} {s : Submission}

/-! ## What is wrong with what was sent -/

theorem read_error {α : Type} {d : Json.Decoder α} {what : String} {body : List UInt8} {e : Refusal}
    (h : read d what body = .error e) : e.status = 400 := by
  obtain ⟨text, -, rfl⟩ := error_of_mapError h
  rfl

theorem readMessage_error {body : List UInt8} {e : Refusal} (h : readMessage body = .error e) : e.status = 400 :=
  read_error (error_of_map h)

theorem message?_error {e : Refusal} (h : message? s = .error e) : e.status = 400 := by
  unfold message? at h
  split at h
  · cases h
  · exact readMessage_error (error_of_map h)

theorem interpret_error {a : Application} {body : List UInt8} {e : Refusal} (h : g.interpret a body = .error e) :
    e.status = 400 := by
  unfold interpret at h
  split at h
  · exact readMessage_error (error_of_map h)
  · exact read_error (error_of_map h)

theorem prepare_error {m : Message} {token user : String} {viaSubmit : Bool} {e : Refusal}
    (h : prepare m token user viaSubmit = .error e) : e.status = 400 := by
  unfold prepare at h
  dsimp only at h
  split at h
  · cases h
    rfl
  · cases h

theorem status_ofResolve {e : ResolveError} (h : e.isNotFound) : (Refusal.ofResolve e).status = 404 := by
  cases e with
  | repository _ => cases h
  | userNotFound | applicationNotFound | targetNotFound _ => rfl

/-! ## The course -/

/-- A queue that takes every task takes this one. -/
theorem enqueue_gives {m : Message} {x : Except Refusal Unit} (h : (enqueue m).Gives (Obliging known) x) :
    x = .ok () := by
  obtain ⟨stamp, -, y, hy, h⟩ := h
  obtain rfl : y = .ok () := hy
  exact h

theorem look_gives {α : Type} {p : Lookups α} {x : α} (h : (look p).Gives (Obliging known) x) :
    p.Gives known.Answers x :=
  (gives_through (f := IngressAsk.store) (P := Obliging known)).1 h

/-- A submission of a user and an application that are known is taken in, or is wrong. -/
theorem takeIn_gives {token : String} {u : User} {m : Message} {pretty : String} {x : Except Refusal Unit}
    (h : (g.takeIn s token u m pretty).Gives (Obliging known) x) : statusOf x = 200 ∨ statusOf x = 400 := by
  -- what was sent is saved first, whatever comes of that
  obtain ⟨_, -, h⟩ := gives_bind.1 h
  cases hm : prepare m token u.key (s.route == .submit) with
  | error e =>
    rw [hm] at h
    obtain rfl : x = .error e := h
    exact .inr (prepare_error hm)
  | ok m' =>
    rw [hm] at h
    obtain ⟨y, hy, h⟩ := gives_bind.1 h
    obtain rfl := enqueue_gives hy
    obtain ⟨_, -, h⟩ := gives_bind.1 h
    obtain ⟨_, -, h⟩ := gives_bind.1 h
    obtain rfl : x = .ok () := h
    exact .inl rfl

/-- A submission that is refused for what was sent is no unknown one. -/
theorem Judged.wrong {x : Except Refusal Unit} (hx : statusOf x = 200 ∨ statusOf x = 400) (hs : ¬ Unknown known s) :
    Judged known s x where
  status := by omega
  missing := ⟨fun h => by omega, fun h => absurd h hs⟩

theorem process_gives {x : Except Refusal Unit} (h : (g.process s).Gives (Obliging known) x) : Judged known s x := by
  unfold process at h
  cases hsent : message? s with
  | error e =>
    rw [hsent] at h
    obtain rfl : x = .error e := h
    refine .wrong (.inr (message?_error hsent)) fun ⟨sent, hsent', _⟩ => ?_
    cases hsent.symm.trans hsent'
  | ok sent =>
    have hunknown : Unknown known s ↔
        Message.isPrintable (tokenOf s sent) = true ∧ known.Lacks (s.route == .submit) (tokenOf s sent) := by
      refine ⟨fun ⟨sent', hsent', hrest⟩ => ?_, fun hrest => ⟨sent, hsent, hrest⟩⟩
      cases hsent.symm.trans hsent'
      exact hrest
    rw [hsent] at h
    dsimp only at h
    split at h
    · next hprintable =>
      obtain rfl : x = .error (.badRequest "invalid application token") := h
      refine .wrong (.inr rfl) fun hs => ?_
      simp [(hunknown.1 hs).1] at hprintable
    next hprintable =>
    obtain ⟨found, hfound, h⟩ := gives_bind.1 h
    rcases Roster.gives_byToken (look_gives hfound) with ⟨⟨⟨u, a⟩, rfl⟩, hknown⟩ | ⟨⟨e, rfl, he⟩, hlacks⟩
    · have hs : ¬ Unknown known s := fun hs => hknown (hunknown.1 hs).2
      cases sent with
      | some m => exact .wrong (takeIn_gives h) hs
      | none =>
        dsimp only at h
        split at h
        · next e he =>
          obtain rfl : x = .error e := h
          exact .wrong (.inr (interpret_error he)) hs
        · exact .wrong (takeIn_gives h) hs
    · obtain rfl : x = .error (.ofResolve e) := h
      have hstatus : statusOf (.error (.ofResolve e)) = 404 := status_ofResolve he
      exact ⟨.inr (.inr hstatus), fun _ => hunknown.2 ⟨by simpa using hprintable, hlacks⟩, fun _ => hstatus⟩

/-- **A submission is judged by what was sent and by what is known**, and nothing else can come of it. -/
theorem respond_gives {x : Except Refusal Unit} (h : (g.respond s).Gives (Obliging known) x) : Judged known s x := by
  obtain ⟨y, hy, h⟩ := gives_bind.1 h
  obtain ⟨_, -, h⟩ := gives_bind.1 h
  obtain rfl : x = y := h
  exact process_gives hy

end Courier.Ingress
