import Courier.Proofs.Number.Rounding
import Courier.Queue.Backoff
/-
How long a wait can be. A wait is at most the longest one that is configured before it is spread by a
tenth; so it is never more than twice as long, whatever is drawn and however often was tried.
-/

namespace Courier.Backoff

open Number (Binary64)
open Number.Binary64

/-- Whether what is drawn is below the upper bound, if the bounds are apart. -/
def DrawsBelow (draw : Binary64 → Binary64 → Binary64) : Prop := ∀ lo hi, lo.lt hi = true → (draw lo hi).lt hi = true

/-- A tenth, rounded. -/
def tenth : Binary64 := ({} : Backoff).jitter

theorem tenth_eq : tenth = .finite false 7205759403792794 (-56) := by decide +kernel

variable {b : Backoff} {draw : Binary64 → Binary64 → Binary64} {attempt k : Nat}

/-- Powers of two of this size are doubles. -/
theorem exponent_bounds (hk : k < 900) : minExponent ≤ (k : Int) ∧ (k : Int) + 1 < Binary64.maxExponent := by
  rw [minExponent, Binary64.maxExponent]
  omega

theorem atMost_base (hk : k < 900) (hmax : b.maximum ≤ 2 ^ k) (attempt : Nat) : AtMost (2 ^ (k : Int)) (b.base attempt) := by
  have hbounds := exponent_bounds hk
  refine atMost_min (atMost_ofNat hbounds.1 (by omega) ?_)
  rw [zpow_natCast]
  exact_mod_cast hmax

theorem not_lt_ofNat_zero : (zero false).lt (ofNat 0) = false := by decide

theorem not_lt_zero_mul {x : Binary64} (hx : AtLeast 1 x) : (zero false).lt ((ofNat 0).mul x) = false := by
  rw [← zpow_zero (2 : ℚ)] at hx
  rcases atLeast_cases hx with rfl | ⟨m, e, rfl, -⟩
  · decide
  · have hzero : (ofNat 0).mul (.finite false m e) = zero false := by
      show roundScaled false (0 * m) _ = _
      rw [Nat.zero_mul]
      unfold roundScaled
      split
      · rw [Nat.zero_mul]
        rfl
      · rfl
    rw [hzero]
    decide

/-- What is spread is one millisecond at least. -/
theorem atLeast_base (hmultiplier : AtLeast 1 b.multiplier) (hspread : (zero false).lt (b.base attempt) = true) :
    AtLeast 1 (b.base attempt) := by
  unfold base at hspread ⊢
  dsimp only at hspread ⊢
  generalize hgrowth : b.multiplier.pow _ = growth at hspread ⊢
  have hgrowth : AtLeast 1 growth := hgrowth ▸ atLeast_pow hmultiplier _
  rcases min_cases ((ofNat b.initial).mul growth) (ofNat b.maximum) with h | h <;> rw [h] at hspread ⊢
  · rcases Nat.eq_zero_or_pos b.initial with hzero | hpos
    · rw [hzero, not_lt_zero_mul hgrowth] at hspread
      cases hspread
    · exact atLeast_one_mul (atLeast_ofNat hpos) hgrowth
  · rcases Nat.eq_zero_or_pos b.maximum with hzero | hpos
    · rw [hzero, not_lt_ofNat_zero] at hspread
      cases hspread
    · exact atLeast_ofNat hpos

/-- The bounds of a draw are apart, and the upper one is no greater than the wait. -/
theorem range_bounds {wait : Binary64} (hk : k < 900) (hlow : AtLeast 1 wait) (hhigh : AtMost (2 ^ (k : Int)) wait) :
    (wait.mul tenth).neg.lt (wait.mul tenth) = true ∧ AtMost (2 ^ (k : Int)) (wait.mul tenth) := by
  have hbounds := exponent_bounds hk
  rw [tenth_eq]
  constructor
  · have htenth : (2 : ℚ) ^ (-4 : Int) ≤ (7205759403792794 : Nat) * 2 ^ (-56 : Int) := by norm_num
    rw [← zpow_zero (2 : ℚ)] at hlow
    exact lt_neg_self (atLeast_mul (by decide) hlow (htenth.trans_eq (toRat_false _ _).symm))
  · exact atMost_mul hbounds.1 (by omega) hhigh (by decide) (by norm_num)

theorem toMillis_le {wait : Binary64} (hk : k < 900) (h : AtMost (2 ^ (k : Int)) wait) : toMillis wait ≤ 2 ^ k := by
  have hbounds := exponent_bounds hk
  have hone : AtMost (2 ^ (k : Int)) (ofNat 1) := by
    refine atMost_ofNat hbounds.1 (by omega) ?_
    rw [zpow_natCast]
    exact_mod_cast Nat.one_le_two_pow
  refine toNatWithin_le limit ?_
  have hmax := atMost_max h hone
  rw [zpow_natCast] at hmax
  exact_mod_cast hmax

theorem delay_le_limit (b : Backoff) (draw : Binary64 → Binary64 → Binary64) (attempt : Nat) :
    b.delay draw attempt ≤ limit := by
  unfold delay
  dsimp only
  split <;> exact toNatWithin_le_limit _ _

/-- **No wait is more than twice as long as the longest one that is configured**, rounded up to a power of two. -/
theorem delay_le (hk : k < 899) (hmax : b.maximum ≤ 2 ^ k) (hjitter : b.jitter = tenth)
    (hmultiplier : AtLeast 1 b.multiplier) (hdraw : DrawsBelow draw) : b.delay draw attempt ≤ 2 ^ (k + 1) := by
  have hbounds := exponent_bounds (by omega : k < 900)
  have hbase := atMost_base (by omega) hmax attempt
  unfold delay
  dsimp only
  split
  · next hspread =>
    rw [isSpread, Bool.and_eq_true] at hspread
    obtain ⟨hapart, hrange⟩ := range_bounds (by omega) (atLeast_base hmultiplier hspread.2) hbase
    rw [hjitter]
    exact toMillis_le (by omega) (atMost_add (by omega) hbounds.2 hbase (atMost_of_lt hrange (hdraw _ _ hapart)))
  · exact (toMillis_le (by omega) hbase).trans (Nat.pow_le_pow_right two_pos (Nat.le_succ k))

end Courier.Backoff
