import Mathlib.Algebra.Order.Field.Power
import Mathlib.Algebra.Order.Ring.Rat
import Mathlib.Tactic.FieldSimp
import Mathlib.Tactic.Linarith
import Mathlib.Tactic.Ring
import Courier.Number.Binary64
/-
Bounds on double precision numbers. A power of two is a double, so rounding takes nothing that is at
most a power of two above it, and nothing that is at least one below it. All else follows operation
by operation, since each of them rounds an exact result.
-/

namespace Courier.Number.Binary64

/-! ## Fractions in units -/

theorem inUnits_pos (num : Nat) {den : Nat} (hden : 0 < den) (e : Int) : 0 < (inUnits num den e).2 := by
  unfold inUnits
  split
  · exact Nat.mul_pos hden (Nat.two_pow_pos _)
  · exact hden

theorem inUnits_eq (num den : Nat) (e : Int) :
    ((inUnits num den e).1 : ℚ) / (inUnits num den e).2 = num / den / 2 ^ e := by
  unfold inUnits
  split
  · next h =>
    obtain ⟨n, rfl⟩ := Int.eq_ofNat_of_zero_le h
    simp [div_div]
  · next h =>
    obtain ⟨n, rfl⟩ : ∃ n : Nat, e = -n := ⟨(-e).toNat, by omega⟩
    simp [mul_div_right_comm]

theorem le_nearestEven {c num den : Nat} (hden : 0 < den) (h : c * den ≤ num) : c ≤ nearestEven num den := by
  have hc : c ≤ num / den := (Nat.le_div_iff_mul_le hden).2 h
  unfold nearestEven
  dsimp only
  split_ifs <;> omega

theorem nearestEven_le {c num den : Nat} (hden : 0 < den) (h : num ≤ c * den) : nearestEven num den ≤ c := by
  rcases Nat.lt_or_ge (num / den) c with hc | hc
  · unfold nearestEven
    dsimp only
    split_ifs <;> omega
  · -- nothing is left over
    obtain rfl : num = c * den := Nat.le_antisymm h ((Nat.le_div_iff_mul_le hden).1 hc)
    simp [nearestEven, Nat.mul_div_cancel _ hden, hden]

/-- The nearest whole number is a half away at most. -/
theorem nearestEven_near (num : Nat) {den : Nat} (hden : 0 < den) :
    2 * (nearestEven num den * den) ≤ 2 * num + den ∧ 2 * num ≤ 2 * (nearestEven num den * den) + den := by
  have hsplit : num / den * den + num % den = num := Nat.div_add_mod' num den
  have hrest := Nat.mod_lt num hden
  unfold nearestEven
  dsimp only
  split_ifs <;> simp only [Nat.add_one_mul] <;> omega

/-- A fraction is at least the power of two that the lengths of its parts tell. -/
theorem two_zpow_le {num den : Nat} (hnum : num ≠ 0) (hden : den ≠ 0) :
    (2 : ℚ) ^ ((num.log2 : Int) - den.log2 - 1) ≤ num / den := by
  have hlow : (2 : ℚ) ^ num.log2 ≤ num := mod_cast Nat.log2_self_le hnum
  have hhigh : (den : ℚ) ≤ 2 ^ (den.log2 + 1) := mod_cast (Nat.lt_log2_self (n := den)).le
  have hpos : (0 : ℚ) < den := mod_cast Nat.pos_of_ne_zero hden
  rw [sub_sub, zpow_sub₀ two_ne_zero]
  exact div_le_div₀ (Nat.cast_nonneg _) hlow hpos hhigh

theorem unitExponent_le {num den : Nat} (h : minExponent < unitExponent num den) :
    unitExponent num den ≤ (num.log2 : Int) - den.log2 - 51 := by
  unfold unitExponent at h ⊢
  dsimp only at h ⊢
  split_ifs at h ⊢ <;> omega

/-- What is given in units of a power of two is at least one unit, unless the unit is the least there is. -/
theorem two_zpow_unitExponent_le {num den : Nat} (hnum : num ≠ 0) (hden : den ≠ 0)
    (h : minExponent < unitExponent num den) : (2 : ℚ) ^ unitExponent num den ≤ num / den := by
  have hle := unitExponent_le h
  exact (zpow_le_zpow_right₀ one_le_two (by omega)).trans (two_zpow_le hnum hden)

/-- The unit of a fraction is no greater than a power of two that the fraction is at most. -/
theorem unitExponent_le_of_le {num den : Nat} {k : Int} (hnum : num ≠ 0) (hden : den ≠ 0) (hk : minExponent ≤ k)
    (h : (num : ℚ) / den ≤ 2 ^ k) : unitExponent num den ≤ k := by
  by_contra hlt
  have hle := two_zpow_unitExponent_le hnum hden (by omega)
  have := (zpow_le_zpow_iff_right₀ (one_lt_two (α := ℚ))).1 (hle.trans h)
  omega

/-- How many of its units a fraction is rounded to. -/
def units (num den : Nat) : Nat :=
  nearestEven (inUnits num den (unitExponent num den)).1 (inUnits num den (unitExponent num den)).2

/-- A whole number bounds what is rounded as it bounds the fraction. -/
theorem units_le_natCast {c num den : Nat} (hden : den ≠ 0) (h : (num : ℚ) / den ≤ c * 2 ^ unitExponent num den) :
    units num den ≤ c := by
  have hpos := inUnits_pos num (Nat.pos_of_ne_zero hden) (unitExponent num den)
  refine nearestEven_le hpos ?_
  rw [← div_le_iff₀ (by positivity), ← inUnits_eq, div_le_iff₀ (mod_cast hpos)] at h
  exact_mod_cast h

theorem natCast_le_units {c num den : Nat} (hden : den ≠ 0) (h : c * 2 ^ unitExponent num den ≤ (num : ℚ) / den) :
    c ≤ units num den := by
  have hpos := inUnits_pos num (Nat.pos_of_ne_zero hden) (unitExponent num den)
  refine le_nearestEven hpos ?_
  rw [← le_div_iff₀ (by positivity), ← inUnits_eq, le_div_iff₀ (mod_cast hpos)] at h
  exact_mod_cast h

/-- What is rounded is off by half a unit at most. -/
theorem units_near (num : Nat) {den : Nat} (hden : den ≠ 0) :
    2 * (units num den * 2 ^ unitExponent num den) ≤ 2 * ((num : ℚ) / den) + 2 ^ unitExponent num den ∧
      2 * ((num : ℚ) / den) ≤ 2 * (units num den * 2 ^ unitExponent num den) + 2 ^ unitExponent num den := by
  have hpos := inUnits_pos num (Nat.pos_of_ne_zero hden) (unitExponent num den)
  obtain ⟨hhigh, hlow⟩ := nearestEven_near (inUnits num den (unitExponent num den)).1 hpos
  have hvalue := inUnits_eq num den (unitExponent num den)
  rw [← units] at hhigh hlow
  generalize (inUnits num den (unitExponent num den)).1 = n at hhigh hlow hvalue
  generalize (inUnits num den (unitExponent num den)).2 = d at hpos hhigh hlow hvalue
  have hd : (0 : ℚ) < d := mod_cast hpos
  have hunit : (0 : ℚ) < 2 ^ unitExponent num den := by positivity
  have hfraction : (num : ℚ) / den = n / d * 2 ^ unitExponent num den := by
    rw [hvalue, div_mul_cancel₀ _ hunit.ne']
  have hhigh : 2 * (units num den : ℚ) ≤ 2 * (n / d) + 1 := by
    rw [← mul_le_mul_iff_left₀ hd, add_mul, mul_assoc, mul_assoc, div_mul_cancel₀ _ hd.ne', one_mul]
    exact_mod_cast hhigh
  have hlow : 2 * ((n : ℚ) / d) ≤ 2 * units num den + 1 := by
    rw [← mul_le_mul_iff_left₀ hd, add_mul, mul_assoc, mul_assoc, div_mul_cancel₀ _ hd.ne', one_mul]
    exact_mod_cast hlow
  rw [hfraction]
  constructor
  · calc 2 * ((units num den : ℚ) * 2 ^ unitExponent num den)
        = 2 * units num den * 2 ^ unitExponent num den := (mul_assoc _ _ _).symm
      _ ≤ (2 * (n / d) + 1) * 2 ^ unitExponent num den := by gcongr
      _ = 2 * (n / d * 2 ^ unitExponent num den) + 2 ^ unitExponent num den := by ring
  · calc 2 * ((n : ℚ) / d * 2 ^ unitExponent num den)
        = 2 * (n / d) * 2 ^ unitExponent num den := (mul_assoc _ _ _).symm
      _ ≤ (2 * units num den + 1) * 2 ^ unitExponent num den := by gcongr
      _ = 2 * (units num den * 2 ^ unitExponent num den) + 2 ^ unitExponent num den := by ring

theorem units_le {num den : Nat} {k : Int} (hnum : num ≠ 0) (hden : den ≠ 0) (hk : minExponent ≤ k)
    (h : (num : ℚ) / den ≤ 2 ^ k) : (units num den : ℚ) * 2 ^ unitExponent num den ≤ 2 ^ k := by
  obtain ⟨n, rfl⟩ := Int.le.dest (unitExponent_le_of_le hnum hden hk h)
  rw [add_comm, zpow_add₀ two_ne_zero, zpow_natCast] at h ⊢
  exact mul_le_mul_of_nonneg_right (mod_cast units_le_natCast (c := 2 ^ n) hden (mod_cast h)) (by positivity)

theorem le_units {num den : Nat} {k : Int} (hnum : num ≠ 0) (hden : den ≠ 0) (hk : minExponent ≤ k)
    (h : 2 ^ k ≤ (num : ℚ) / den) : 2 ^ k ≤ (units num den : ℚ) * 2 ^ unitExponent num den := by
  rcases le_or_gt (unitExponent num den) k with hle | hlt
  · obtain ⟨n, rfl⟩ := Int.le.dest hle
    rw [add_comm, zpow_add₀ two_ne_zero, zpow_natCast] at h ⊢
    exact mul_le_mul_of_nonneg_right (mod_cast natCast_le_units (c := 2 ^ n) hden (mod_cast h)) (by positivity)
  · -- one unit is more than the power already
    have hone : 1 ≤ units num den :=
      natCast_le_units hden (by simpa using two_zpow_unitExponent_le hnum hden (by omega))
    calc (2 : ℚ) ^ k ≤ 2 ^ unitExponent num den := zpow_le_zpow_right₀ one_le_two hlt.le
      _ ≤ units num den * 2 ^ unitExponent num den := le_mul_of_one_le_left (by positivity) (mod_cast hone)

/-- What a fraction is rounded to. -/
theorem round_eq (negative : Bool) {num den : Nat} (hnum : num ≠ 0) (hden : den ≠ 0) :
    ∃ m e, round negative num den = (if maxExponent < e then .infinite negative else .finite negative m e) ∧
      e ≤ unitExponent num den + 1 ∧ (m : ℚ) * 2 ^ e = units num den * 2 ^ unitExponent num den := by
  unfold round
  rw [if_neg (by simp [hnum, hden])]
  by_cases hm : units num den = 2 ^ 53
  · refine ⟨2 ^ 52, unitExponent num den + 1, ?_, le_rfl, ?_⟩
    · rw [units] at hm
      simp only [hm, if_true]
    · rw [hm, zpow_add_one₀ two_ne_zero]
      push_cast
      ring
  · refine ⟨units num den, unitExponent num den, ?_, by omega, rfl⟩
    rw [units] at hm ⊢
    simp only [hm, if_false]

/-! ## Bounds -/

/-- The fraction that a finite number is. -/
def toRat (negative : Bool) (m : Nat) (e : Int) : ℚ := (if negative then -1 else 1) * (m * 2 ^ e)

/-- Whether a number is at most a fraction. -/
def AtMost (q : ℚ) : Binary64 → Prop
  | .finite s m e => toRat s m e ≤ q
  | .infinite s => s = true
  | .nan => False

/-- Whether a number is at least a fraction. -/
def AtLeast (q : ℚ) : Binary64 → Prop
  | .finite s m e => q ≤ toRat s m e
  | .infinite s => s = false
  | .nan => False

variable {x y : Binary64} {q : ℚ} {k : Int}

theorem toRat_false (m : Nat) (e : Int) : toRat false m e = m * 2 ^ e := one_mul _

theorem toRat_true_nonpos (m : Nat) (e : Int) : toRat true m e ≤ 0 := by
  have h : (0 : ℚ) ≤ m * 2 ^ e := by positivity
  simpa [toRat] using h

theorem toRat_le (negative : Bool) (m : Nat) (e : Int) : toRat negative m e ≤ m * 2 ^ e := by
  cases negative with
  | false => exact (toRat_false m e).le
  | true => exact (toRat_true_nonpos m e).trans (by positivity)

theorem atMost_zero (hq : 0 ≤ q) (negative : Bool) : AtMost q (zero negative) :=
  (toRat_le _ _ _).trans (by simpa using hq)

/-! ## Rounding -/

theorem atMost_round_true (hq : 0 ≤ q) (num den : Nat) : AtMost q (round true num den) := by
  unfold round
  dsimp only
  split_ifs
  all_goals first
    | exact rfl
    | exact (toRat_true_nonpos _ _).trans hq

/-- A fraction that is at most a power of two is rounded to what is at most that. -/
theorem atMost_round (negative : Bool) {num den : Nat} (hk : minExponent ≤ k) (hmax : k < maxExponent)
    (h : (num : ℚ) / den ≤ 2 ^ k) : AtMost (2 ^ k) (round negative num den) := by
  by_cases hzero : num = 0 ∨ den = 0
  · rw [round, if_pos hzero]
    exact atMost_zero (by positivity) negative
  rw [not_or] at hzero
  obtain ⟨m, e, hround, he, hvalue⟩ := round_eq negative hzero.1 hzero.2
  have hunit := unitExponent_le_of_le hzero.1 hzero.2 hk h
  rw [hround, if_neg (by omega)]
  exact (toRat_le _ _ _).trans (hvalue.trans_le (units_le hzero.1 hzero.2 hk h))

/-- A fraction that is at least a power of two is rounded to what is at least that. -/
theorem atLeast_round {num den : Nat} (hk : minExponent ≤ k) (h : 2 ^ k ≤ (num : ℚ) / den) :
    AtLeast (2 ^ k) (round false num den) := by
  have hpos : (0 : ℚ) < num / den := lt_of_lt_of_le (by positivity) h
  have hnum : num ≠ 0 := by
    rintro rfl
    simp at hpos
  have hden : den ≠ 0 := by
    rintro rfl
    simp at hpos
  obtain ⟨m, e, hround, -, hvalue⟩ := round_eq false hnum hden
  rw [hround]
  split_ifs
  · exact rfl
  · exact (le_units hnum hden hk h).trans_eq (hvalue.symm.trans (toRat_false m e).symm)

theorem roundScaled_eq (negative : Bool) (m : Nat) (e : Int) :
    ∃ num den, roundScaled negative m e = round negative num den ∧ (num : ℚ) / den = m * 2 ^ e := by
  unfold roundScaled
  split_ifs with h
  · obtain ⟨n, rfl⟩ := Int.eq_ofNat_of_zero_le h
    exact ⟨_, _, rfl, by simp⟩
  · obtain ⟨n, rfl⟩ : ∃ n : Nat, e = -n := ⟨(-e).toNat, by omega⟩
    exact ⟨_, _, rfl, by simp [div_eq_mul_inv]⟩

theorem atMost_roundScaled_true (hq : 0 ≤ q) (m : Nat) (e : Int) : AtMost q (roundScaled true m e) := by
  obtain ⟨num, den, heq, -⟩ := roundScaled_eq true m e
  rw [heq]
  exact atMost_round_true hq num den

theorem atMost_roundScaled (negative : Bool) {m : Nat} {e : Int} (hk : minExponent ≤ k) (hmax : k < maxExponent)
    (h : (m : ℚ) * 2 ^ e ≤ 2 ^ k) : AtMost (2 ^ k) (roundScaled negative m e) := by
  obtain ⟨num, den, heq, hvalue⟩ := roundScaled_eq negative m e
  rw [heq]
  exact atMost_round negative hk hmax (hvalue.trans_le h)

theorem atLeast_roundScaled {m : Nat} {e : Int} (hk : minExponent ≤ k) (h : 2 ^ k ≤ (m : ℚ) * 2 ^ e) :
    AtLeast (2 ^ k) (roundScaled false m e) := by
  obtain ⟨num, den, heq, hvalue⟩ := roundScaled_eq false m e
  rw [heq]
  exact atLeast_round hk (h.trans_eq hvalue.symm)

/-! ## Operations -/

theorem atMost_ofNat {n : Nat} (hk : minExponent ≤ k) (hmax : k < maxExponent) (h : (n : ℚ) ≤ 2 ^ k) :
    AtMost (2 ^ k) (ofNat n) :=
  atMost_round false hk hmax (by simpa using h)

theorem atLeast_ofNat {n : Nat} (h : 0 < n) : AtLeast 1 (ofNat n) := by
  have hone : (1 : ℚ) ≤ n := mod_cast h
  have hround : AtLeast (2 ^ (0 : Int)) (ofNat n) := atLeast_round (by decide) (by simpa using hone)
  rwa [zpow_zero] at hround

/-- Significands in units that are small enough stand for the same fractions. -/
theorem toRat_eq (negative : Bool) (m : Nat) {e low : Int} (h : low ≤ e) :
    toRat negative m e =
      ((if negative then -(m * 2 ^ (e - low).toNat : Nat) else (m * 2 ^ (e - low).toNat : Nat) : Int) : ℚ) * 2 ^ low := by
  obtain ⟨n, rfl⟩ := Int.le.dest h
  have hn : (low + n - low).toNat = n := by omega
  rw [hn, toRat, zpow_add₀ two_ne_zero, zpow_natCast]
  cases negative <;> push_cast <;> simp <;> ring

theorem lt_finite_iff {s t : Bool} {m n : Nat} {e f : Int} :
    lt (.finite s m e) (.finite t n f) = true ↔ toRat s m e < toRat t n f := by
  have hle : (if e ≤ f then e else f) ≤ e ∧ (if e ≤ f then e else f) ≤ f := by split_ifs <;> omega
  rw [toRat_eq s m hle.1, toRat_eq t n hle.2, mul_lt_mul_iff_left₀ (by positivity), Int.cast_lt, lt]
  simp only [decide_eq_true_eq]

theorem atMost_of_lt (hy : AtMost q y) (h : lt x y = true) : AtMost q x := by
  cases x with
  | nan => cases y <;> cases h
  | infinite s =>
    cases y with
    | nan => cases h
    | finite t n f => exact h
    | infinite t => exact (Bool.and_eq_true_iff.1 h).1
  | finite s m e =>
    cases y with
    | nan => cases h
    | finite t n f => exact (lt_finite_iff.1 h).le.trans hy
    | infinite t => simp_all [lt, AtMost]

theorem atMost_of_not_lt (hx : AtMost q x) (h : lt x y = false) (hy : y ≠ .nan) : AtMost q y := by
  cases x with
  | nan => exact hx.elim
  | infinite s =>
    obtain rfl : s = true := hx
    cases y with
    | nan => exact absurd rfl hy
    | finite t n f => cases h
    | infinite t => exact (by simpa [lt] using h : t = true)
  | finite s m e =>
    cases y with
    | nan => exact absurd rfl hy
    | finite t n f => exact (not_lt.1 fun hlt => by simp [lt_finite_iff.2 hlt] at h).trans hx
    | infinite t => exact (by simpa [lt] using h : t = true)

/-- The lesser of two numbers is one of them, and at most the second one. -/
theorem min_cases (x y : Binary64) : x.min y = x ∨ x.min y = y := by
  unfold min
  split
  · exact .inr rfl
  · exact .inl rfl
  · split <;> simp

theorem atMost_min (hy : AtMost q y) : AtMost q (x.min y) := by
  unfold min
  split
  · exact hy
  · exact hy.elim
  · next hx _ =>
    split
    · exact hy
    · next h => exact atMost_of_not_lt hy (by simpa using h) hx

theorem atMost_max (hx : AtMost q x) (hy : AtMost q y) : AtMost q (x.max y) := by
  unfold max
  split
  · exact hy
  · exact hx
  · split
    · exact hy
    · exact hx

/-- The sum of two finite numbers is rounded from that of their fractions. -/
theorem add_finite (s t : Bool) (m n : Nat) (e f : Int) :
    ∃ (sum low : Int), (sum : ℚ) * 2 ^ low = toRat s m e + toRat t n f ∧
      add (.finite s m e) (.finite t n f) =
        if sum = 0 then zero (s && t) else roundScaled (sum < 0) sum.natAbs low := by
  have hle : (if e ≤ f then e else f) ≤ e ∧ (if e ≤ f then e else f) ≤ f := by split_ifs <;> omega
  refine ⟨_, _, ?_, rfl⟩
  rw [toRat_eq s m hle.1, toRat_eq t n hle.2, ← add_mul, ← Int.cast_add]

theorem atMost_add (hk : minExponent ≤ k + 1) (hmax : k + 1 < maxExponent) (hx : AtMost (2 ^ k) x)
    (hy : AtMost (2 ^ k) y) : AtMost (2 ^ (k + 1)) (x.add y) := by
  cases x with
  | nan => exact hx.elim
  | infinite s =>
    obtain rfl : s = true := hx
    cases y with
    | nan => exact hy.elim
    | finite t n f => exact rfl
    | infinite t =>
      obtain rfl : t = true := hy
      exact rfl
  | finite s m e =>
    cases y with
    | nan => exact hy.elim
    | infinite t => exact hy
    | finite t n f =>
      obtain ⟨sum, low, hsum, hadd⟩ := add_finite s t m n e f
      have hle : (sum : ℚ) * 2 ^ low ≤ 2 ^ (k + 1) := by
        rw [hsum, zpow_add_one₀ two_ne_zero, mul_two]
        exact add_le_add hx hy
      rw [hadd]
      rcases lt_trichotomy sum 0 with hneg | rfl | hpos
      · rw [if_neg hneg.ne, decide_eq_true hneg]
        exact atMost_roundScaled_true (by positivity) _ _
      · rw [if_pos rfl]
        exact atMost_zero (by positivity) _
      · rw [if_neg hpos.ne']
        refine atMost_roundScaled _ hk hmax ?_
        rwa [Nat.cast_natAbs, abs_of_pos hpos]

/-- A number does not grow by a factor that is at most one. -/
theorem atMost_mul {m : Nat} {e : Int} (hk : minExponent ≤ k) (hmax : k < maxExponent) (hx : AtMost (2 ^ k) x)
    (hm : m ≠ 0) (hfactor : (m : ℚ) * 2 ^ e ≤ 1) : AtMost (2 ^ k) (x.mul (.finite false m e)) := by
  cases x with
  | nan => exact hx.elim
  | infinite s =>
    obtain rfl : s = true := hx
    rw [mul, if_neg hm]
    exact rfl
  | finite s n f =>
    cases s with
    | true => exact atMost_roundScaled_true (by positivity) _ _
    | false =>
      refine atMost_roundScaled _ hk hmax ?_
      have hx : toRat false n f ≤ 2 ^ k := hx
      rw [toRat_false] at hx
      calc ((n * m : Nat) : ℚ) * 2 ^ (f + e) = n * 2 ^ f * (m * 2 ^ e) := by
            rw [zpow_add₀ two_ne_zero]
            push_cast
            ring
        _ ≤ n * 2 ^ f := mul_le_of_le_one_right (by positivity) hfactor
        _ ≤ 2 ^ k := hx

/-- What is at least a power of two is infinite, or a fraction that is. -/
theorem atLeast_cases (h : AtLeast (2 ^ k) x) : x = .infinite false ∨ ∃ m e, x = .finite false m e ∧ 2 ^ k ≤ (m : ℚ) * 2 ^ e := by
  cases x with
  | nan => exact h.elim
  | infinite s =>
    obtain rfl : s = false := h
    exact .inl rfl
  | finite s m e =>
    have h : 2 ^ k ≤ toRat s m e := h
    cases s with
    | true => exact absurd (h.trans (toRat_true_nonpos m e)) (not_le.2 (by positivity))
    | false => exact .inr ⟨m, e, rfl, h.trans_eq (toRat_false m e)⟩

theorem atLeast_mul {l : Int} (hkl : minExponent ≤ k + l) (hx : AtLeast (2 ^ k) x) (hy : AtLeast (2 ^ l) y) :
    AtLeast (2 ^ (k + l)) (x.mul y) := by
  have hpos {j : Int} {m : Nat} {e : Int} (h : 2 ^ j ≤ (m : ℚ) * 2 ^ e) : m ≠ 0 := by
    rintro rfl
    rw [Nat.cast_zero, zero_mul] at h
    exact absurd h (not_le.2 (by positivity))
  rcases atLeast_cases hx with rfl | ⟨m, e, rfl, hm⟩ <;> rcases atLeast_cases hy with rfl | ⟨n, f, rfl, hn⟩
  · exact rfl
  · rw [mul, if_neg (hpos hn)]
    exact rfl
  · rw [mul, if_neg (hpos hm)]
    exact rfl
  · refine atLeast_roundScaled hkl ?_
    calc (2 : ℚ) ^ (k + l) = 2 ^ k * 2 ^ l := zpow_add₀ two_ne_zero _ _
      _ ≤ m * 2 ^ e * (n * 2 ^ f) := mul_le_mul hm hn (by positivity) (by positivity)
      _ = ((m * n : Nat) : ℚ) * 2 ^ (e + f) := by
        rw [zpow_add₀ two_ne_zero]
        push_cast
        ring

theorem atLeast_one_mul (hx : AtLeast 1 x) (hy : AtLeast 1 y) : AtLeast 1 (x.mul y) := by
  rw [← zpow_zero (2 : ℚ)] at hx hy ⊢
  exact atLeast_mul (by decide) hx hy

theorem atLeast_powFrom (hx : AtLeast 1 x) (hy : AtLeast 1 y) (n : Nat) : AtLeast 1 (powFrom x y n) := by
  induction n using Nat.strong_induction_on generalizing x y with
  | _ n ih =>
    rw [powFrom]
    have hresult : AtLeast 1 (if n % 2 = 1 then x.mul y else x) := by
      split
      · exact atLeast_one_mul hx hy
      · exact hx
    split
    · exact hresult
    · exact ih (n / 2) (by omega) hresult (atLeast_one_mul hy hy)

/-- No power of a number that is one at least is less than one. -/
theorem atLeast_pow (hx : AtLeast 1 x) (n : Nat) : AtLeast 1 (x.pow n) :=
  atLeast_powFrom (atLeast_ofNat one_pos) hx n

theorem lt_neg_self (h : AtLeast (2 ^ k) x) : lt x.neg x = true := by
  rcases atLeast_cases h with rfl | ⟨m, e, rfl, hm⟩
  · rfl
  · refine lt_finite_iff.2 ((toRat_true_nonpos m e).trans_lt ?_)
    rw [toRat_false]
    exact lt_of_lt_of_le (by positivity) hm

/-- The whole part of a number is no greater than what the number is at most. -/
theorem toNatWithin_le (limit : Nat) {n : Nat} (h : AtMost n x) : x.toNatWithin limit ≤ n := by
  cases x with
  | nan => exact Nat.zero_le n
  | infinite s =>
    obtain rfl : s = true := h
    exact Nat.zero_le n
  | finite s m e =>
    cases s with
    | true => exact Nat.zero_le n
    | false =>
      have h : toRat false m e ≤ n := h
      rw [toRat_false] at h
      refine (Nat.min_le_left _ _).trans ?_
      split_ifs with he
      · obtain ⟨j, rfl⟩ := Int.eq_ofNat_of_zero_le he
        exact_mod_cast h
      · obtain ⟨j, rfl⟩ : ∃ j : Nat, e = -j := ⟨(-e).toNat, by omega⟩
        rw [zpow_neg, ← div_eq_mul_inv, div_le_iff₀ (by positivity)] at h
        refine Nat.div_le_of_le_mul ?_
        rw [neg_neg, Int.toNat_natCast, Nat.mul_comm]
        exact_mod_cast h

theorem toNatWithin_le_limit (limit : Nat) (x : Binary64) : x.toNatWithin limit ≤ limit := by
  unfold toNatWithin
  split
  · exact Nat.zero_le _
  · exact Nat.zero_le _
  · exact le_rfl
  · exact Nat.zero_le _
  · exact Nat.min_le_right _ _

end Courier.Number.Binary64
