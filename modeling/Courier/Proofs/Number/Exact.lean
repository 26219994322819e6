import Mathlib.Data.Nat.Cast.Order.Field
import Courier.Proofs.Number.Rounding
/-
Double precision numbers that are exact. A fraction of 53 bits, in units that doubles have, is
rounded to itself. So whole numbers up to 2^53 are doubles, products of theirs with powers of two
are computed as they are, and so are comparisons and whole parts.
-/

namespace Courier.Number.Binary64

/-- Whether a fraction has 53 bits, in units that doubles have. -/
def Representable (q : ℚ) : Prop :=
  ∃ (k : Nat) (j : Int), k < 2 ^ 53 ∧ minExponent ≤ j ∧ j < maxExponent ∧ q = k * 2 ^ j

/-- Whether a number is finite, without a sign, and exactly a fraction. -/
def Exactly (q : ℚ) (x : Binary64) : Prop := ∃ m e, x = .finite false m e ∧ (m : ℚ) * 2 ^ e = q

theorem representable_natCast_mul {n k : Nat} (hn : n ≤ 2 ^ 53) (hk : k < 900) : Representable (n * 2 ^ k) := by
  have hmin : minExponent ≤ (k : Int) := by
    rw [minExponent]
    omega
  have hmax : (k : Int) + 1 < maxExponent := by
    rw [maxExponent]
    omega
  rcases hn.lt_or_eq with hlt | rfl
  · exact ⟨n, k, hlt, hmin, by omega, by rw [zpow_natCast]⟩
  · -- 2^53 itself has one bit too many
    refine ⟨2 ^ 52, k + 1, by decide, by omega, hmax, ?_⟩
    rw [zpow_add_one₀ two_ne_zero, zpow_natCast]
    push_cast
    ring

/-! ## Rounding -/

/-- The unit of a fraction, unless it is the least there is, is the one that was guessed from the lengths of its parts, or
one beside it. -/
theorem unitExponent_cases {num den : Nat} {guess : Int} (hguess : guess = (num.log2 : Int) - den.log2 - 52)
    (h : minExponent < unitExponent num den) :
    unitExponent num den = guess - 1 ∨
    unitExponent num den = guess + 1 ∧ 2 ^ 53 ≤ (inUnits num den guess).1 / (inUnits num den guess).2 ∨
    unitExponent num den = guess ∧ 2 ^ 52 ≤ (inUnits num den guess).1 / (inUnits num den guess).2 := by
  unfold unitExponent at h ⊢
  dsimp only at h ⊢
  rw [← hguess] at h ⊢
  split_ifs at h ⊢ <;> omega

theorem natCast_mul_le_of_le_div {c num den : Nat} {e : Int} (h : c ≤ (inUnits num den e).1 / (inUnits num den e).2) :
    (c : ℚ) * 2 ^ e ≤ num / den := by
  rw [← le_div_iff₀ (by positivity), ← inUnits_eq]
  exact (Nat.cast_le.2 h).trans Nat.cast_div_le

/-- The significand of a fraction has 53 bits in its unit, unless the unit is the least there is. -/
theorem significand_le {num den : Nat} (hnum : num ≠ 0) (hden : den ≠ 0) (h : minExponent < unitExponent num den) :
    2 ^ 52 * 2 ^ unitExponent num den ≤ (num : ℚ) / den := by
  rcases unitExponent_cases rfl h with hunit | ⟨hunit, hq⟩ | ⟨hunit, hq⟩
  · rw [hunit]
    refine le_trans (le_of_eq ?_) (two_zpow_le hnum hden)
    rw [← zpow_natCast, ← zpow_add₀ two_ne_zero]
    congr 1
    push_cast
    ring
  · rw [hunit, zpow_add_one₀ two_ne_zero]
    refine le_trans (le_of_eq ?_) (natCast_mul_le_of_le_div hq)
    push_cast
    ring
  · rw [hunit]
    exact_mod_cast natCast_mul_le_of_le_div hq

/-- The unit of a fraction of 53 bits is no greater than the one that it is given in. -/
theorem unitExponent_le_of_eq {num den k : Nat} {j : Int} (hnum : num ≠ 0) (hden : den ≠ 0) (hk : k < 2 ^ 53)
    (hj : minExponent ≤ j) (h : (num : ℚ) / den = k * 2 ^ j) : unitExponent num den ≤ j := by
  by_contra hlt
  rw [not_le] at hlt
  have hlow := significand_le hnum hden (hj.trans_lt hlt)
  have hunit : (2 : ℚ) ^ (j + 1) ≤ 2 ^ unitExponent num den := zpow_le_zpow_right₀ one_le_two (by omega)
  have hle : (2 ^ 53 : ℚ) * 2 ^ j ≤ k * 2 ^ j :=
    calc (2 ^ 53 : ℚ) * 2 ^ j = 2 ^ 52 * 2 ^ (j + 1) := by
          rw [zpow_add_one₀ two_ne_zero]
          ring
      _ ≤ 2 ^ 52 * 2 ^ unitExponent num den := by gcongr
      _ ≤ k * 2 ^ j := h ▸ hlow
  have hbits : (2 ^ 53 : ℚ) ≤ k := le_of_mul_le_mul_right hle (by positivity)
  exact absurd hk (not_lt.2 (by exact_mod_cast hbits))

theorem exactly_zero : Exactly 0 (zero false) := ⟨0, minExponent, rfl, by simp⟩

/-- **A fraction of 53 bits is rounded to itself.** -/
theorem exactly_round {num den : Nat} (h : Representable ((num : ℚ) / den)) :
    Exactly (num / den) (round false num den) := by
  by_cases hzero : num = 0 ∨ den = 0
  · have hvalue : (num : ℚ) / den = 0 := by simpa using hzero
    rw [round, if_pos hzero, hvalue]
    exact exactly_zero
  rw [not_or] at hzero
  obtain ⟨k, j, hk, hmin, hmax, hvalue⟩ := h
  have hunit := unitExponent_le_of_eq hzero.1 hzero.2 hk hmin hvalue
  obtain ⟨i, rfl⟩ := Int.le.dest hunit
  have hwhole : (num : ℚ) / den = (k * 2 ^ i : Nat) * 2 ^ unitExponent num den := by
    rw [hvalue, zpow_add₀ two_ne_zero, zpow_natCast]
    push_cast
    ring
  have hunits : units num den = k * 2 ^ i :=
    le_antisymm (units_le_natCast hzero.2 hwhole.le) (natCast_le_units hzero.2 hwhole.ge)
  obtain ⟨m, e, hround, he, hm⟩ := round_eq false hzero.1 hzero.2
  rw [hround, if_neg (by omega)]
  exact ⟨m, e, rfl, by rw [hm, hunits, hwhole]⟩

theorem exactly_roundScaled {m : Nat} {e : Int} (h : Representable ((m : ℚ) * 2 ^ e)) :
    Exactly (m * 2 ^ e) (roundScaled false m e) := by
  obtain ⟨num, den, heq, hvalue⟩ := roundScaled_eq false m e
  rw [heq, ← hvalue]
  exact exactly_round (hvalue ▸ h)

/-! ## Operations -/

section

variable {p q : ℚ} {x y : Binary64} {n : Nat}

theorem exactly_ofNat (hn : n ≤ 2 ^ 53) : Exactly n (ofNat n) := by
  have hrepresentable := representable_natCast_mul hn (by decide : 0 < 900)
  have hround : Exactly ((n : ℚ) / (1 : Nat)) (round false n 1) := exactly_round (by simpa using hrepresentable)
  rwa [Nat.cast_one, div_one] at hround

/-- A whole number of more bits is rounded to a whole number, half a unit away at most. -/
theorem exactly_ofNat_near {k : Nat} (hn : n < 2 ^ (53 + k)) (hk : k < 900) :
    ∃ v : Nat, Exactly v (ofNat n) ∧ 2 * v ≤ 2 * n + 2 ^ k ∧ 2 * n ≤ 2 * v + 2 ^ k := by
  by_cases hzero : n = 0
  · subst hzero
    exact ⟨0, exactly_ofNat (Nat.zero_le _), Nat.le_add_right .., Nat.le_add_right ..⟩
  obtain ⟨u, hu⟩ : ∃ u, unitExponent n 1 = u := ⟨_, rfl⟩
  have hunit : u ≤ k := by
    by_contra hlt
    have hlow := significand_le hzero one_ne_zero (by rw [hu, minExponent]; omega)
    rw [Nat.cast_one, div_one, hu] at hlow
    have hbits : (2 : ℚ) ^ (53 + k) ≤ n :=
      calc (2 : ℚ) ^ (53 + k) = 2 ^ 52 * 2 ^ ((k : Int) + 1) := by
            rw [zpow_add_one₀ two_ne_zero, zpow_natCast]
            ring
        _ ≤ 2 ^ 52 * 2 ^ u := mul_le_mul_of_nonneg_left (zpow_le_zpow_right₀ one_le_two (by omega)) (by positivity)
        _ ≤ n := hlow
    exact absurd hn (not_lt.2 (by exact_mod_cast hbits))
  obtain ⟨m, e, hround, he, hm⟩ := round_eq false hzero one_ne_zero
  rw [hu] at he hm
  have hfinite : ofNat n = .finite false m e := by
    rw [ofNat, hround, if_neg (by rw [maxExponent]; omega)]
  rcases le_or_gt 0 u with hwhole | hparts
  · obtain ⟨i, rfl⟩ := Int.eq_ofNat_of_zero_le hwhole
    have hnear := units_near n one_ne_zero
    have hpow : 2 ^ i ≤ 2 ^ k := Nat.pow_le_pow_right (by decide) (by omega)
    rw [Nat.cast_one, div_one, hu] at hnear
    norm_cast at hnear
    exact ⟨units n 1 * 2 ^ i, ⟨m, e, hfinite, by rw [hm]; push_cast; rfl⟩, by omega, by omega⟩
  · -- a unit below one is fine enough for every whole number
    obtain ⟨i, rfl⟩ : ∃ i : Nat, u = -i := ⟨(-u).toNat, by omega⟩
    have hvalue : (n : ℚ) / (1 : Nat) = (n * 2 ^ i : Nat) * 2 ^ unitExponent n 1 := by
      rw [hu, zpow_neg, zpow_natCast]
      push_cast
      field_simp
    have hunits : units n 1 = n * 2 ^ i :=
      le_antisymm (units_le_natCast one_ne_zero hvalue.le) (natCast_le_units one_ne_zero hvalue.ge)
    refine ⟨n, ⟨m, e, hfinite, ?_⟩, Nat.le_add_right .., Nat.le_add_right ..⟩
    rw [hm, hunits, ← hu, ← hvalue, Nat.cast_one, div_one]

theorem Exactly.mul (hx : Exactly p x) (hy : Exactly q y) (h : Representable (p * q)) : Exactly (p * q) (x.mul y) := by
  obtain ⟨m, e, rfl, rfl⟩ := hx
  obtain ⟨n, f, rfl, rfl⟩ := hy
  have hproduct : (m : ℚ) * 2 ^ e * (n * 2 ^ f) = (m * n : Nat) * 2 ^ (e + f) := by
    rw [zpow_add₀ two_ne_zero]
    push_cast
    ring
  rw [hproduct] at h ⊢
  exact exactly_roundScaled h

theorem Exactly.lt_iff (hx : Exactly p x) (hy : Exactly q y) : lt x y = true ↔ p < q := by
  obtain ⟨m, e, rfl, rfl⟩ := hx
  obtain ⟨n, f, rfl, rfl⟩ := hy
  rw [lt_finite_iff, toRat_false, toRat_false]

theorem Exactly.min (hx : Exactly p x) (hy : Exactly q y) : Exactly (Min.min p q) (x.min y) := by
  have hmin : x.min y = if lt y x = true then y else x := by
    obtain ⟨m, e, rfl, -⟩ := hx
    obtain ⟨n, f, rfl, -⟩ := hy
    rfl
  rw [hmin]
  split
  · next hlt => rwa [min_eq_right ((hy.lt_iff hx).1 hlt).le]
  · next hlt => rwa [min_eq_left (not_lt.1 ((hy.lt_iff hx).not.1 hlt))]

theorem Exactly.max (hx : Exactly p x) (hy : Exactly q y) : Exactly (Max.max p q) (x.max y) := by
  have hmax : x.max y = if lt x y = true then y else x := by
    obtain ⟨m, e, rfl, -⟩ := hx
    obtain ⟨n, f, rfl, -⟩ := hy
    rfl
  rw [hmax]
  split
  · next hlt => rwa [max_eq_right ((hx.lt_iff hy).1 hlt).le]
  · next hlt => rwa [max_eq_left (not_lt.1 ((hx.lt_iff hy).not.1 hlt))]

/-- A whole number within the range is its own whole part. -/
theorem Exactly.toNatWithin {limit : Nat} (hx : Exactly n x) (hlimit : n ≤ limit) : x.toNatWithin limit = n := by
  obtain ⟨m, e, rfl, hn⟩ := hx
  rw [Binary64.toNatWithin]
  have hwhole : (if 0 ≤ e then m * 2 ^ e.toNat else m / 2 ^ (-e).toNat) = n := by
    split_ifs with he
    · obtain ⟨i, rfl⟩ := Int.eq_ofNat_of_zero_le he
      exact_mod_cast hn
    · obtain ⟨i, rfl⟩ : ∃ i : Nat, e = -i := ⟨(-e).toNat, by omega⟩
      rw [zpow_neg, ← div_eq_mul_inv, div_eq_iff (by positivity)] at hn
      have hm : m = n * 2 ^ i := by exact_mod_cast hn
      rw [neg_neg, Int.toNat_natCast, hm, Nat.mul_div_cancel _ (Nat.two_pow_pos i)]
  rw [hwhole]
  exact Nat.min_eq_left hlimit

theorem exactly_mul_two_pow {a b : Nat} (hx : Exactly (2 ^ a) x) (hy : Exactly (2 ^ b) y) (hbound : a + b < 900) :
    Exactly (2 ^ (a + b)) (x.mul y) := by
  have hrepresentable := representable_natCast_mul (by decide : 1 ≤ 2 ^ 53) hbound
  rw [Nat.cast_one, one_mul, pow_add] at hrepresentable
  rw [pow_add]
  exact hx.mul hy hrepresentable

/-- Repeated squaring stays with powers of two, none of them greater than the result. -/
theorem exactly_powFrom {a b : Nat} (hx : Exactly (2 ^ a) x) (hy : Exactly (2 ^ b) y) (hbound : a + b * n < 900) :
    Exactly (2 ^ (a + b * n)) (powFrom x y n) := by
  induction n using Nat.strong_induction_on generalizing x y a b with
  | _ n ih =>
    have hresult : Exactly (2 ^ (a + b * (n % 2))) (if n % 2 = 1 then x.mul y else x) := by
      split
      · next hodd =>
        rw [hodd, Nat.mul_one]
        have hle : b ≤ b * n := Nat.le_mul_of_pos_right b (by omega)
        exact exactly_mul_two_pow hx hy (by omega)
      · next heven =>
        have hzero : n % 2 = 0 := by omega
        rwa [hzero, Nat.mul_zero, Nat.add_zero]
    have hsplit : a + b * n = a + b * (n % 2) + (b + b) * (n / 2) := by
      have hn := congrArg (b * ·) (Nat.mod_add_div n 2)
      linarith
    rw [powFrom]
    split
    · next hlast =>
      rw [hsplit, hlast, Nat.mul_zero, Nat.add_zero]
      exact hresult
    · next hmore =>
      have hle : b * 2 ≤ b * n := Nat.mul_le_mul_left b (by omega)
      have hsquare := exactly_mul_two_pow hy hy (by omega)
      rw [hsplit] at hbound ⊢
      exact ih (n / 2) (by omega) hresult hsquare hbound

theorem exactly_pow (hx : Exactly 2 x) (hn : n < 900) : Exactly (2 ^ n) (x.pow n) := by
  have hone : Exactly (2 ^ 0) (ofNat 1) := by simpa using exactly_ofNat (by decide : 1 ≤ 2 ^ 53)
  have hpow := exactly_powFrom hone ((pow_one (2 : ℚ)).symm ▸ hx : Exactly (2 ^ 1) x) (n := n) (by omega)
  rwa [Nat.zero_add, Nat.one_mul] at hpow

end

end Courier.Number.Binary64
