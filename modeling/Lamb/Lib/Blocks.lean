import Mathlib.Algebra.Order.Floor.Div
import Mathlib.Data.Nat.ModEq

/-!
Positions cut into blocks of a fixed size, and blocks placed in a circular
array. The first `n` positions touch `n ⌈/⌉ size` blocks; block `k` stands in
slot `k % count`, and two blocks less than `count` apart never share a slot.
-/

namespace Lamb.Lib

variable {n k q size count : ℕ}

theorem lt_ceilDiv_iff (hsize : 0 < size) : k < n ⌈/⌉ size ↔ k * size < n := by
  rw [← not_le, ceilDiv_le_iff_le_mul hsize, not_le, mul_comm]

theorem ceilDiv_eq_succ (hsize : 0 < size) (hlow : q * size < n) (hhigh : n ≤ (q + 1) * size) :
    n ⌈/⌉ size = q + 1 := by
  have h₁ := (lt_ceilDiv_iff hsize).mpr hlow
  have h₂ : n ⌈/⌉ size ≤ q + 1 := by
    rw [ceilDiv_le_iff_le_mul hsize, mul_comm]
    exact hhigh
  omega

theorem mul_ceilDiv (hsize : 0 < size) : (q * size) ⌈/⌉ size = q := by
  rw [mul_comm]
  exact smul_ceilDiv hsize q

/-- The position just before `n` lies in the last touched block. -/
theorem pred_div_eq (hlow : k * size < n) (hhigh : n ≤ (k + 1) * size) :
    (n - 1) / size = k :=
  Nat.div_eq_of_lt_le (by omega) (by omega)

theorem mod_ne_of_lt (hlt : k < q) (hnear : q < k + count) : k % count ≠ q % count := by
  intro heq
  have hdvd : count ∣ q - k := (Nat.modEq_iff_dvd' hlt.le).mp heq
  have := Nat.le_of_dvd (by omega) hdvd
  omega

end Lamb.Lib
