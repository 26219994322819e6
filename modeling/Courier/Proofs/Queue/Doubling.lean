import Mathlib.Data.List.Induction
import Courier.Proofs.Number.Exact
import Courier.Queue.Backoff
/-
Waits that double. With a multiplier of two and nothing drawn, waits of up to 2^53 milliseconds are
computed exactly: each is twice the one before it, up to the longest one and the greatest power,
and one millisecond at least. So waits never become shorter while it goes on to fail, and a counter
starts over with the first of them whenever it is reset.
-/

namespace Courier.Backoff

open Number (Binary64)
open Number.Binary64 (Exactly)

/-- Whether waits double, without being spread, and are short enough to be exact. -/
structure Doubling (b : Backoff) : Prop where
  multiplier : Exactly 2 b.multiplier
  jitter : b.jitter.isZero = true
  initial : b.initial ≤ 2 ^ 53
  maximum : b.maximum ≤ 2 ^ 53

/-- What is asked of a counter. -/
inductive Call
  | next (draw : Binary64 → Binary64 → Binary64)
  | reset

def Call.isNext : Call → Bool
  | .next _ => true
  | .reset => false

/-- A counter after some calls. -/
def Counter.after (c : Counter) : List Call → Counter
  | [] => c
  | .next draw :: calls => (c.next draw).1.after calls
  | .reset :: calls => c.reset.after calls

/-- How many waits were asked for since the counter was reset for the last time. -/
def sinceReset (calls : List Call) : Nat := (calls.reverse.takeWhile Call.isNext).length

/-! ## Waits -/

section

variable {b : Backoff} {draw : Binary64 → Binary64 → Binary64}

theorem isSpread_of_isZero (h : b.jitter.isZero = true) (wait : Binary64) : b.isSpread wait = false := by
  have hlt : (Binary64.zero false).lt b.jitter = false := by
    unfold Binary64.isZero at h
    split at h
    · next s e hjitter =>
      rw [hjitter]
      cases s <;> simp [Binary64.lt, Binary64.zero]
    · cases h
  rw [isSpread, hlt, Bool.false_and]

theorem exactly_base (h : b.Doubling) (attempt : Nat) :
    Exactly (min (b.initial * 2 ^ min (attempt - 1) 32) b.maximum : Nat) (b.base attempt) := by
  have hexponent : min (attempt - 1) 32 < 900 := by omega
  have hgrowth := Number.Binary64.exactly_pow h.multiplier hexponent
  have hrepresentable := Number.Binary64.representable_natCast_mul h.initial hexponent
  have hproduct := (Number.Binary64.exactly_ofNat h.initial).mul hgrowth hrepresentable
  have hbase := hproduct.min (Number.Binary64.exactly_ofNat h.maximum)
  rw [base]
  exact_mod_cast hbase

theorem delay_eq (h : b.Doubling) (attempt : Nat) :
    b.delay draw attempt = max 1 (min (b.initial * 2 ^ min (attempt - 1) 32) b.maximum) := by
  have hmax := (exactly_base h attempt).max (Number.Binary64.exactly_ofNat (by decide : 1 ≤ 2 ^ 53))
  have hlimit : max (min (b.initial * 2 ^ min (attempt - 1) 32) b.maximum) 1 ≤ limit := by
    have hmaximum := h.maximum
    rw [limit]
    omega
  rw [delay]
  dsimp only
  rw [isSpread_of_isZero h.jitter, if_neg Bool.false_ne_true, toMillis, max_comm 1]
  exact Exactly.toNatWithin (by exact_mod_cast hmax) hlimit

theorem delay_monotone (h : b.Doubling) : Monotone (b.delay draw) := by
  intro attempt attempt' hle
  rw [delay_eq h, delay_eq h]
  gcongr
  · decide

end

/-! ## Counters -/

theorem Counter.after_append (c : Counter) (calls calls' : List Call) : c.after (calls ++ calls') = (c.after calls).after calls' := by
  induction calls generalizing c with
  | nil => rfl
  | cons call calls ih => cases call <;> exact ih _

/-- A counter knows no more of its calls than how many waits were asked for since it was reset, as far as 32 bits tell. -/
theorem Counter.after_eq (b : Backoff) (calls : List Call) :
    Counter.after ⟨b, 0⟩ calls = ⟨b, sinceReset calls % 2 ^ 32⟩ := by
  induction calls using List.reverseRecOn with
  | nil => rfl
  | append_singleton calls call ih =>
    rw [Counter.after_append, ih]
    cases call with
    | next draw =>
      have hmore : sinceReset (calls ++ [.next draw]) = sinceReset calls + 1 := by
        simp [sinceReset, List.takeWhile_cons, Call.isNext]
      rw [hmore, Counter.after, Counter.next_mod, Counter.after]
    | reset =>
      have hnone : sinceReset (calls ++ [.reset]) = 0 := by simp [sinceReset, Call.isNext]
      rw [hnone]
      rfl

/-- **Waits double up to the longest one.** Without spreading, the wait before an attempt is the first wait, doubled for each
attempt before it but for 32 at most, no longer than the longest one and no shorter than a millisecond. So no wait is none
and none is too long, later attempts never wait less, and a counter waits, whatever is drawn, as for the attempts that
were made since it was reset, counted with 32 bits. -/
theorem delay_doubles {b : Backoff} (h : b.Doubling) (draw : Binary64 → Binary64 → Binary64) :
    (∀ attempt, b.delay draw attempt = max 1 (min (b.initial * 2 ^ min (attempt - 1) 32) b.maximum)) ∧
    b.delay draw 0 = b.delay draw 1 ∧
    (∀ attempt, b.delay draw attempt ≠ 0 ∧ b.delay draw attempt ≤ max 1 b.maximum) ∧
    Monotone (b.delay draw) ∧
    (∀ calls draw', ((Counter.after ⟨b, 0⟩ calls).next draw').2 = b.delay draw ((sinceReset calls + 1) % 2 ^ 32)) ∧
    ∀ calls draw', sinceReset calls + 1 < 2 ^ 32 →
      ((Counter.after ⟨b, 0⟩ calls).next draw').2 = b.delay draw (sinceReset calls + 1) := by
  have hcounter (calls : List Call) (draw' : Binary64 → Binary64 → Binary64) :
      ((Counter.after ⟨b, 0⟩ calls).next draw').2 = b.delay draw ((sinceReset calls + 1) % 2 ^ 32) := by
    rw [Counter.after_eq, Counter.next_mod, delay_eq h, delay_eq h]
  refine ⟨delay_eq h, ?_, fun attempt => ?_, delay_monotone h, hcounter, fun calls draw' hfew => ?_⟩
  · rw [delay_eq h, delay_eq h]
  · rw [delay_eq h]
    omega
  · rw [hcounter, Nat.mod_eq_of_lt hfew]

/-- Waits of a tenth of a second at first, and of a second at most. -/
def sampleBackoff : Backoff where
  initial := 100
  maximum := 1000
  jitter := Binary64.zero false

theorem sample_delay_doubles : sampleBackoff.Doubling ∧
    [1, 2, 3, 4, 5, 500].map (sampleBackoff.delay fun low _ => low) = [100, 200, 400, 800, 1000, 1000] ∧
    ((Counter.after ⟨sampleBackoff, 0⟩ [.next fun low _ => low, .next fun low _ => low, .reset]).next fun _ high => high).2 = 100 := by
  have htwo : Exactly 2 (Binary64.ofNat 2) := Number.Binary64.exactly_ofNat (by decide : 2 ≤ 2 ^ 53)
  have hdoubling : sampleBackoff.Doubling := ⟨htwo, by decide, by decide, by decide⟩
  obtain ⟨hdelay, -, -, -, -, hcounter⟩ := delay_doubles hdoubling fun low _ => low
  refine ⟨hdoubling, ?_, ?_⟩
  · simp only [List.map_cons, List.map_nil, hdelay]
    decide
  · rw [hcounter _ _ (by decide), hdelay]
    decide

end Courier.Backoff
