import Courier.Number.Decimal
/-
The digits of a number: which one comes first, how many there are, and what a
part of them says of the number. Reading them gives the number that the core
library makes of them.
-/

namespace Courier.Number

/-- A digit is none of the other characters. -/
theorem digitChar_ne {d : Nat} {c : Char} (h : d < 10) (hc : digit? c = none) : digitChar d ≠ c := by
  rintro rfl
  simp [digit?_digitChar h] at hc

theorem digit?_lt {c : Char} {d : Nat} (h : digit? c = some d) : d < 10 := by
  unfold digit? at h
  split at h
  · next hc =>
    cases h
    have hnine : c.toNat ≤ 57 := hc.2
    omega
  · cases h

theorem digit?_eq (c : Char) : digit? c = if c.isDigit then some (c.toNat - '0'.toNat) else none := by
  have hiff : c.isDigit = true ↔ '0' ≤ c ∧ c ≤ '9' := Char.isDigit_iff_toNat
  by_cases hc : '0' ≤ c ∧ c ≤ '9'
  · rw [digit?, if_pos hc, if_pos (hiff.2 hc)]
    rfl
  · rw [digit?, if_neg hc, if_neg (mt hiff.1 hc)]

theorem readDigits_eq (acc : Nat) (cs : List Char) :
    readDigits acc cs = if cs.all Char.isDigit then some (Nat.ofDigitChars 10 cs acc) else none := by
  induction cs generalizing acc with
  | nil => rfl
  | cons c cs ih =>
    rw [readDigits, digit?_eq, List.all_cons, Nat.ofDigitChars_cons, Nat.mul_comm 10 acc]
    by_cases hc : c.isDigit
    · simp only [hc, if_true, Bool.true_and]
      exact ih _
    · simp [hc]

/-- A natural number is read from digits, one at least, and from nothing else. -/
theorem nat?_eq (cs : List Char) :
    nat? cs = if cs ≠ [] ∧ cs.all Char.isDigit then some (Nat.ofDigitChars 10 cs 0) else none := by
  cases cs with
  | nil => rfl
  | cons c cs => simp only [nat?, readDigits_eq, ne_eq, reduceCtorEq, not_false_eq_true, true_and]

/-- A number of digits is no smaller than what its first digits make. -/
theorem le_of_readDigits {cs : List Char} {acc n : Nat} (h : readDigits acc cs = some n) : acc ≤ n := by
  induction cs generalizing acc with
  | nil => simp only [readDigits, Option.some.injEq] at h; omega
  | cons c cs ih =>
    simp only [readDigits] at h
    cases hc : digit? c with
    | none => simp [hc] at h
    | some d =>
      simp only [hc] at h
      have := ih h
      omega

/-- The first digit of a number is zero for zero only, and the others make the number. -/
theorem digits_cons (n : Nat) : ∃ d cs, digits n = digitChar d :: cs ∧ d < 10 ∧ (d = 0 → n = 0 ∧ cs = []) := by
  induction n using digits.induct with
  | case1 n h => exact ⟨n, [], by rw [digits, if_pos h], h, fun hz => ⟨hz, rfl⟩⟩
  | case2 n h ih =>
    obtain ⟨d, cs, hd, hlt, hz⟩ := ih
    refine ⟨d, cs ++ [digitChar (n % 10)], by rw [digits, if_neg h, hd, List.cons_append], hlt, fun h0 => ?_⟩
    have := (hz h0).1
    omega

/-- A number below a power of ten has no more digits than that. -/
theorem length_digits_le {n k : Nat} (hk : 0 < k) (h : n < 10 ^ k) : (digits n).length ≤ k := by
  induction k generalizing n with
  | zero => omega
  | succ k ih =>
    rw [digits]
    split
    · simp
    · next hn =>
      have hdiv : n / 10 < 10 ^ k := by rw [Nat.pow_succ] at h; omega
      have hk' : 0 < k := by
        rcases Nat.eq_zero_or_pos k with rfl | hpos
        · simp at h; omega
        · exact hpos
      have := ih hk' hdiv
      simp only [List.length_append, List.length_singleton]
      omega

end Courier.Number
