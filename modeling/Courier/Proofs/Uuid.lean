import Mathlib.Algebra.Ring.Nat
import Courier.Uuid
/-
An identifier of 128 bits is read back from its written form. The hyphens go
where they came from whatever the groups are, as long as the digits fill them.
-/

namespace Courier.Uuid

theorem hexValue?_hexDigit {d : Nat} (h : d < 16) : hexValue? (Text.hexDigit d) = some d := by
  revert d; decide

theorem length_hexDigits (count n : Nat) : (hexDigits count n).length = count := by
  induction count generalizing n with
  | zero => rfl
  | succ count ih => simp [hexDigits, ih]

/-- The characters of an identifier, hyphens apart. -/
theorem mem_hexDigits {count n : Nat} {c : Char} (h : c ∈ hexDigits count n) :
    ∃ d < 16, c = Text.hexDigit d := by
  induction count generalizing n with
  | zero => simp [hexDigits] at h
  | succ count ih =>
    simp only [hexDigits, List.mem_append, List.mem_singleton] at h
    rcases h with h | rfl
    · exact ih h
    · exact ⟨n % 16, Nat.mod_lt _ (by omega), rfl⟩

theorem readHex_append (acc : Nat) (xs ys : List Char) :
    readHex acc (xs ++ ys) = (readHex acc xs).bind fun n => readHex n ys := by
  induction xs generalizing acc with
  | nil => rfl
  | cons c r ih =>
    simp only [List.cons_append, readHex]
    cases hexValue? c with
    | none => rfl
    | some d => exact ih _

theorem readHex_hexDigits (acc count n : Nat) :
    readHex acc (hexDigits count n) = some (acc * 16 ^ count + n % 16 ^ count) := by
  induction count generalizing n with
  | zero => simp [hexDigits, readHex, Nat.mod_one]
  | succ count ih =>
    rw [hexDigits, readHex_append, ih, Option.bind_some, readHex, hexValue?_hexDigit (Nat.mod_lt _ (by omega)),
      Option.bind_some, readHex, Option.some.injEq, Nat.pow_succ, Nat.mul_comm (16 ^ count) 16, Nat.mod_mul]
    rw [Nat.add_mul, Nat.mul_assoc, Nat.mul_comm (16 ^ count) 16]
    omega

/-- Digits that fill the groups come back from between the hyphens. -/
theorem ungroup?_hyphenate {gs : List Nat} {ds : List Char} (h : ds.length = gs.sum) :
    ungroup? gs (hyphenate gs ds) = some ds := by
  induction gs generalizing ds with
  | nil => simp_all [ungroup?, hyphenate]
  | cons n gs ih =>
    cases gs with
    | nil => simp_all [ungroup?, hyphenate]
    | cons m gs =>
      simp only [List.sum_cons] at h ih
      have hlen : (ds.take n).length = n := by simp; omega
      have hdrop : (ds.take n ++ '-' :: hyphenate (m :: gs) (ds.drop n)).drop n =
          '-' :: hyphenate (m :: gs) (ds.drop n) := by
        rw [List.drop_append_of_le_length (by omega), List.drop_of_length_le (by omega), List.nil_append]
      have htake : (ds.take n ++ '-' :: hyphenate (m :: gs) (ds.drop n)).take n = ds.take n := by
        rw [List.take_append_of_le_length (by omega), List.take_of_length_le (by omega)]
      have hrest : (ds.drop n).length = m + gs.sum := by simp; omega
      simp only [hyphenate, ungroup?, hdrop, htake, ih hrest, Option.map_some, List.take_append_drop]

theorem length_hyphenate {gs : List Nat} {ds : List Char} (h : ds.length = gs.sum) :
    (hyphenate gs ds).length = gs.sum + (gs.length - 1) := by
  induction gs generalizing ds with
  | nil => simp_all [hyphenate]
  | cons n gs ih =>
    cases gs with
    | nil => simp_all [hyphenate]
    | cons m gs =>
      simp only [List.sum_cons] at h ih
      have hrest : (ds.drop n).length = m + gs.sum := by simp; omega
      simp only [hyphenate, List.length_append, List.length_take, List.length_cons, List.sum_cons, ih hrest]
      simp; omega

theorem mem_hyphenate {gs : List Nat} {ds : List Char} {c : Char} (h : c ∈ hyphenate gs ds) : c = '-' ∨ c ∈ ds := by
  induction gs generalizing ds with
  | nil => exact .inr h
  | cons n gs ih =>
    cases gs with
    | nil => exact .inr h
    | cons m gs =>
      rcases List.mem_append.1 h with h | h
      · exact .inr (List.mem_of_mem_take h)
      rcases List.mem_cons.1 h with rfl | h
      · exact .inl rfl
      · exact (ih h).imp_right List.mem_of_mem_drop

theorem text_ne_empty (u : Uuid) : u.text ≠ "" := by
  intro h
  have hlength : u.toChars.length = groups.sum + (groups.length - 1) := length_hyphenate (length_hexDigits 32 u.value)
  rw [String.ofList_eq_empty_iff.1 h] at hlength
  cases hlength

/-- A text that begins with a digit stands for itself. -/
theorem unwrapped_hexDigit {d : Nat} (h : d < 16) (r : List Char) :
    unwrapped (Text.hexDigit d :: r) = (Text.hexDigit d :: r, 0, true) := by
  have h1 : Text.hexDigit d ≠ '\x7b' := by revert d; decide
  have h2 : Text.hexDigit d ≠ 'u' := by revert d; decide
  unfold unwrapped
  split
  · next heq => exact absurd (List.cons.inj heq).1 h1
  · next heq => exact absurd (List.cons.inj heq).1 h2
  · rfl

/-- **An identifier is read back from its written form.** -/
theorem parse_text {u : Uuid} (h : u.value < 2 ^ 128) : parse u.text = .ok u := by
  have hlen : (hexDigits 32 u.value).length = groups.sum := length_hexDigits 32 u.value
  obtain ⟨c, r, hds⟩ := List.exists_cons_of_length_eq_add_one (n := 31) hlen
  have hc : c ∈ hexDigits 32 u.value := by simp [hds]
  obtain ⟨d, hd, rfl⟩ := mem_hexDigits hc
  have hhead : ∃ r', u.toChars = Text.hexDigit d :: r' := ⟨_, by simp [toChars, hds, groups, hyphenate]; rfl⟩
  obtain ⟨r', hr'⟩ := hhead
  have hunwrapped : unwrapped u.toChars = (u.toChars, 0, true) := by
    rw [hr']; exact unwrapped_hexDigit hd r'
  have hlength : u.toChars.length ≠ 32 := by
    rw [toChars, length_hyphenate hlen]; decide
  have hdigits : ungroup? groups u.toChars = some (hexDigits 32 u.value) := ungroup?_hyphenate hlen
  have hread : readHex 0 (hexDigits 32 u.value) = some u.value := by
    rw [readHex_hexDigits]; simp; omega
  simp only [parse, text, String.toList_ofList, hlength, if_false, hunwrapped, hdigits, Option.bind_some, hread]

/-! ## What can be read -/

theorem hexValue?_lt {c : Char} {d : Nat} (h : hexValue? c = some d) : d < 16 := by
  unfold hexValue? at h
  split at h
  · next hc =>
    cases h
    have hlast : c.toNat ≤ 57 := hc.2
    omega
  split at h
  · next hc =>
    cases h
    have hlast : c.toNat ≤ 102 := hc.2
    omega
  split at h
  · next hc =>
    cases h
    have hlast : c.toNat ≤ 70 := hc.2
    omega
  · cases h

theorem readHex_lt {acc n : Nat} {cs : List Char} (h : readHex acc cs = some n) : n < (acc + 1) * 16 ^ cs.length := by
  induction cs generalizing acc with
  | nil =>
    simp only [readHex, Option.some.injEq] at h
    simp [h]
  | cons c cs ih =>
    obtain ⟨d, hd, h⟩ := Option.bind_eq_some_iff.1 h
    have hd := hexValue?_lt hd
    calc n < (acc * 16 + d + 1) * 16 ^ cs.length := ih h
      _ ≤ ((acc + 1) * 16) * 16 ^ cs.length := Nat.mul_le_mul_right _ (by omega)
      _ = (acc + 1) * 16 ^ (c :: cs).length := by rw [List.length_cons, Nat.pow_succ', Nat.mul_assoc]

theorem length_ungroup? {gs : List Nat} {cs ds : List Char} (h : ungroup? gs cs = some ds) : ds.length ≤ gs.sum := by
  induction gs generalizing cs ds with
  | nil =>
    unfold ungroup? at h
    split at h
    · cases h
      exact Nat.zero_le _
    · cases h
  | cons n gs ih =>
    cases gs with
    | nil =>
      unfold ungroup? at h
      split at h
      · next hn =>
        cases h
        simp [hn]
      · cases h
    | cons m gs =>
      unfold ungroup? at h
      split at h
      · obtain ⟨rest, hrest, rfl⟩ := Option.map_eq_some_iff.1 h
        have hlength := ih hrest
        simp only [List.length_append, List.length_take, List.sum_cons] at hlength ⊢
        omega
      · cases h

/-- **What is read as an identifier has 128 bits.** -/
theorem parse_lt {s : String} {u : Uuid} (h : parse s = .ok u) : u.value < 2 ^ 128 := by
  unfold parse at h
  dsimp only at h
  split at h
  · next n hn =>
    cases h
    obtain ⟨ds, hds, hn⟩ := Option.bind_eq_some_iff.1 hn
    have hlength : ds.length ≤ 32 := by
      split at hds
      · next hall =>
        cases hds
        exact Nat.le_of_eq hall
      · exact length_ungroup? hds
    calc n < (0 + 1) * 16 ^ ds.length := readHex_lt hn
      _ ≤ (0 + 1) * 16 ^ 32 := Nat.mul_le_mul_left _ (Nat.pow_le_pow_right (by omega) hlength)
      _ = 2 ^ 128 := by decide
  · cases h

end Courier.Uuid
