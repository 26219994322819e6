import Courier.Proofs.Calendar.Rfc3339
import Courier.Proofs.Number.Exact
import Courier.Redis.Store
/-
Scores as a server keeps them. A whole number up to 2^53 is a double, and so is every time that a
clock shows; a greater one of 64 bits is kept as a whole number that is 512 away at most.
-/

namespace Courier.Redis

open Calendar (Moment)
open Number (Binary64)

variable {n : Int}

/-- Up to 2^53 nothing is rounded. -/
theorem asDouble_eq (h : n.natAbs ≤ 2 ^ 53) : asDouble n = n := by
  have hsize : (Binary64.ofNat n.natAbs).toNatWithin (2 ^ 64) = n.natAbs :=
    (Binary64.exactly_ofNat h).toNatWithin (by omega)
  simp only [asDouble, hsize]
  split <;> omega

/-- In the range of 64 bits a score is half a unit of the greatest doubles away at most. -/
theorem asDouble_near (h : n.natAbs ≤ 2 ^ 63) : asDouble n ≤ n + 512 ∧ n ≤ asDouble n + 512 := by
  obtain ⟨v, hsize, hhigh, hlow⟩ : ∃ v : Nat, (Binary64.ofNat n.natAbs).toNatWithin (2 ^ 64) = v ∧
      2 * v ≤ 2 * n.natAbs + 2 ^ 10 ∧ 2 * n.natAbs ≤ 2 * v + 2 ^ 10 := by
    rcases h.lt_or_eq with hlt | heq
    · obtain ⟨v, hv, hhigh, hlow⟩ := Binary64.exactly_ofNat_near (k := 10) hlt (by decide)
      exact ⟨v, hv.toNatWithin (by omega), hhigh, hlow⟩
    · -- 2^63 itself is a double
      exact ⟨2 ^ 63, by rw [heq]; decide +kernel, by omega, by omega⟩
  simp only [asDouble, hsize]
  split <;> omega

/-- A server takes a time that a clock shows as it is. -/
theorem asDouble_unixMillis {t : Moment} (h : t.Sound) : asDouble t.unixMillis = t.unixMillis := by
  have hbounds := h.unixMillis_bounds
  exact asDouble_eq (by omega)

end Courier.Redis
