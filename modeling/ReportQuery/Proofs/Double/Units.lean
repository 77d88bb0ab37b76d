import Mathlib.Order.Monotone.Basic
import Mathlib.Algebra.Order.Ring.Nat
import ReportQuery.Double

namespace ReportQuery.Double

/-- The distance from the magnitude of a rank to the next one. -/
def stepAt (rank : Nat) : Nat := 2 ^ (rank / binadeSize - 1)

theorem stepAt_pos (rank : Nat) : 0 < stepAt rank := Nat.two_pow_pos _

theorem stepAt_mono {rank other : Nat} (h : rank ≤ other) : stepAt rank ≤ stepAt other :=
  Nat.pow_le_pow_right Nat.two_pos (Nat.sub_le_sub_right (Nat.div_le_div_right h) 1)

theorem unitsAt_eq_mul (rank : Nat) :
    unitsAt rank = (rank - (rank / binadeSize - 1) * binadeSize) * stepAt rank :=
  Nat.shiftLeft_eq _ _

theorem unitsAt_succ (rank : Nat) : unitsAt (rank + 1) = unitsAt rank + stepAt rank := by
  rw [unitsAt_eq_mul, unitsAt_eq_mul]
  simp only [stepAt, binadeSize]
  generalize hb : rank / 0x10000000000000 - 1 = binade
  by_cases hn : (rank + 1) / 0x10000000000000 - 1 = binade
  · have hplace : rank + 1 - binade * 0x10000000000000 =
        rank - binade * 0x10000000000000 + 1 := by omega
    rw [hn, hplace, Nat.succ_mul]
  · -- The next rank is the first of the next binade, which starts at half its end.
    have hnext : (rank + 1) / 0x10000000000000 - 1 = binade + 1 := by omega
    have hplace : rank - binade * 0x10000000000000 = 2 * 0x10000000000000 - 1 := by omega
    have hfirst : rank + 1 - (binade + 1) * 0x10000000000000 = 0x10000000000000 := by omega
    rw [hnext, hplace, hfirst, Nat.pow_succ]
    omega

theorem unitsAt_strictMono : StrictMono unitsAt := by
  apply strictMono_nat_of_lt_succ
  intro rank
  rw [unitsAt_succ]
  exact Nat.lt_add_of_pos_right (stepAt_pos rank)

theorem unitsAt_zero : unitsAt 0 = 0 := by
  rw [unitsAt_eq_mul, Nat.zero_sub, Nat.zero_mul]

theorem unitsAt_succ_le (rank : Nat) : unitsAt (rank + 1) ≤ 2 * binadeSize * stepAt rank := by
  rw [unitsAt_succ, unitsAt_eq_mul, ← Nat.succ_mul]
  apply Nat.mul_le_mul_right
  simp only [binadeSize]
  omega

theorem unitsAt_le_steps (rank : Nat) :
    unitsAt (rank + 1) ≤ binadeSize * (stepAt rank + stepAt (rank + 1)) := by
  have hstep : stepAt rank ≤ stepAt (rank + 1) := stepAt_mono (Nat.le_succ rank)
  calc unitsAt (rank + 1) ≤ 2 * binadeSize * stepAt rank := unitsAt_succ_le rank
    _ = binadeSize * (stepAt rank + stepAt rank) := by
      rw [Nat.mul_comm 2, Nat.mul_assoc, Nat.two_mul]
    _ ≤ binadeSize * (stepAt rank + stepAt (rank + 1)) :=
      Nat.mul_le_mul_left _ (Nat.add_le_add_left hstep _)

end ReportQuery.Double
