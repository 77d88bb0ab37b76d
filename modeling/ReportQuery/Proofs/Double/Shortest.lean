import Mathlib.Algebra.Order.Field.Power
import Mathlib.Algebra.Order.Ring.Rat
import Mathlib.Algebra.Field.Rat
import Mathlib.Tactic.Linarith
import Mathlib.Tactic.Ring
import ReportQuery.Double.Shortest
import ReportQuery.Proofs.Double.Range
import ReportQuery.Proofs.Double.Units

namespace ReportQuery.Double

def Decimal.value (d : Decimal) : ℚ := d.digits * 10 ^ d.exponent

/-- Whether a number rounds to the magnitude of a rank: it lies between the two midpoints around it,
and is none of them if the rank is odd. -/
structure RoundsTo (v : ℚ) (rank : Nat) : Prop where
  low : (unitsAt (rank - 1) + unitsAt rank : Nat) ≤ v * (2 * unitsOfOne : Nat)
  high : v * (2 * unitsOfOne : Nat) ≤ (unitsAt rank + unitsAt (rank + 1) : Nat)
  ties : rank % 2 = 1 →
    (unitsAt (rank - 1) + unitsAt rank : Nat) ≠ v * (2 * unitsOfOne : Nat) ∧
      v * (2 * unitsOfOne : Nat) ≠ (unitsAt rank + unitsAt (rank + 1) : Nat)

theorem RoundsTo.not_lt {v : ℚ} {rank other : Nat} (h : RoundsTo v rank) (ho : RoundsTo v other) :
    ¬ rank < other := by
  intro hlt
  have hle : unitsAt (other - 1) + unitsAt other ≤ unitsAt rank + unitsAt (rank + 1) :=
    Nat.cast_le.mp (le_trans ho.low h.high)
  have hfirst : unitsAt rank ≤ unitsAt (other - 1) := unitsAt_strictMono.monotone (by omega)
  have hsecond : unitsAt (rank + 1) ≤ unitsAt other := unitsAt_strictMono.monotone hlt
  -- The ranks are neighbours that share a midpoint, and one of them is odd.
  have hnext : rank + 1 = other := unitsAt_strictMono.injective (by omega)
  subst hnext
  rcases Nat.mod_two_eq_zero_or_one rank with heven | hodd
  · exact (ho.ties (by omega)).1 (le_antisymm ho.low h.high)
  · exact (h.ties hodd).2 (le_antisymm h.high ho.low)

theorem RoundsTo.unique {v : ℚ} {rank other : Nat} (h : RoundsTo v rank) (ho : RoundsTo v other) :
    rank = other :=
  le_antisymm (Nat.not_lt.mp (ho.not_lt h)) (Nat.not_lt.mp (h.not_lt ho))

theorem roundsTo_zero : RoundsTo 0 0 where
  low := by simp [unitsAt_zero]
  high := by
    rw [zero_mul]
    exact Nat.cast_nonneg _
  ties h := absurd h (by decide)

section Grid

variable {closed : Bool} {low value high unit n : Nat}

theorem gridPoint?_eq_some (h : gridPoint? closed low value high unit = some n) :
    low ≤ n * unit ∧ n * unit ≤ high ∧ (closed = false → low ≠ n * unit ∧ n * unit ≠ high) := by
  have hinside (m : Nat) (hm : (if closed then decide (low ≤ m * unit) && decide (m * unit ≤ high)
      else decide (low < m * unit) && decide (m * unit < high)) = true) :
      low ≤ m * unit ∧ m * unit ≤ high ∧
        (closed = false → low ≠ m * unit ∧ m * unit ≠ high) := by
    cases closed with
    | true =>
      simp only [if_true, Bool.and_eq_true, decide_eq_true_eq] at hm
      exact ⟨hm.1, hm.2, nofun⟩
    | false =>
      simp only [Bool.false_eq_true, if_false, Bool.and_eq_true, decide_eq_true_eq] at hm
      exact ⟨hm.1.le, hm.2.le, fun _ => ⟨hm.1.ne, hm.2.ne⟩⟩
  simp only [gridPoint?] at h
  split at h
  · next hbelow habove =>
    have hle : value / unit ≤ n := Option.some.inj h ▸ div_le_roundHalfEven
    have hge : n ≤ value / unit + 1 := Option.some.inj h ▸ roundHalfEven_le_div_add_one
    obtain rfl | rfl : n = value / unit ∨ n = value / unit + 1 := by omega
    · exact hinside _ hbelow
    · exact hinside _ habove
  · next hbelow _ => exact Option.some.inj h ▸ hinside _ hbelow
  · next _ habove => exact Option.some.inj h ▸ hinside _ habove
  · cases h

theorem exists_gridPoint? (hunit : 0 < unit) (hlow : low < value) (hhigh : value < high)
    (hwide : low + unit < high) : ∃ n, gridPoint? closed low value high unit = some n := by
  have hbelow : value / unit * unit ≤ value := Nat.div_mul_le_self value unit
  have habove : value < (value / unit + 1) * unit := by
    rw [Nat.mul_comm]
    exact Nat.lt_mul_div_succ value hunit
  have hnext : (value / unit + 1) * unit = value / unit * unit + unit := Nat.succ_mul _ _
  simp only [gridPoint?]
  split
  · exact ⟨_, rfl⟩
  · exact ⟨_, rfl⟩
  · exact ⟨_, rfl⟩
  · next hb ha =>
    exfalso
    cases closed with
    | true =>
      simp only [if_true, Bool.and_eq_false_iff, decide_eq_false_iff_not] at hb ha
      omega
    | false =>
      simp only [Bool.false_eq_true, if_false, Bool.and_eq_false_iff,
        decide_eq_false_iff_not] at hb ha
      omega

end Grid

theorem unitsOfOne_pos : 0 < unitsOfOne := by decide +kernel

section Search

variable {rank count : Nat} {d : Decimal}

theorem zpow_mul_pow_toNat (e : Int) : (10 : ℚ) ^ e * 10 ^ (-e).toNat = 10 ^ e.toNat := by
  rw [← zpow_natCast, ← zpow_natCast, ← zpow_add₀ (by norm_num)]
  congr 1
  omega

theorem Decimal.value_mul_scale (d : Decimal) :
    d.value * (2 * unitsOfOne : Nat) * (Nat.pow 10 (-d.exponent).toNat : Nat) =
      (d.digits * (Nat.pow 10 d.exponent.toNat * (2 * unitsOfOne)) : Nat) := by
  have hpow := zpow_mul_pow_toNat d.exponent
  simp only [value, Nat.pow_eq]
  push_cast
  rw [← hpow]
  ring

theorem RoundsTo.of_scaled {v : ℚ} {scale point : Nat} (hscale : 0 < scale)
    (hv : v * (2 * unitsOfOne : Nat) * (scale : Nat) = (point : Nat))
    (hlow : (unitsAt (rank - 1) + unitsAt rank) * scale ≤ point)
    (hhigh : point ≤ (unitsAt rank + unitsAt (rank + 1)) * scale)
    (hties : rank % 2 = 1 → (unitsAt (rank - 1) + unitsAt rank) * scale ≠ point ∧
      point ≠ (unitsAt rank + unitsAt (rank + 1)) * scale) : RoundsTo v rank := by
  have hpos : (0 : ℚ) < (scale : Nat) := Nat.cast_pos.mpr hscale
  constructor
  · rw [← mul_le_mul_iff_of_pos_right hpos, hv, ← Nat.cast_mul]
    exact Nat.cast_le.mpr hlow
  · rw [← mul_le_mul_iff_of_pos_right hpos, hv, ← Nat.cast_mul]
    exact Nat.cast_le.mpr hhigh
  · intro hodd
    obtain ⟨hne, hne'⟩ := hties hodd
    constructor
    · intro heq
      rw [← heq, ← Nat.cast_mul] at hv
      exact hne (Nat.cast_injective hv)
    · intro heq
      rw [heq, ← Nat.cast_mul] at hv
      exact hne' (Nat.cast_injective hv).symm

theorem decimalOf?_roundsTo (h : decimalOf? rank count = some d) : RoundsTo d.value rank := by
  obtain ⟨n, hn, rfl⟩ := Option.map_eq_some_iff.mp h
  obtain ⟨hlow, hhigh, hties⟩ := gridPoint?_eq_some hn
  have hscale : 0 < Nat.pow 10 (-(pointPosition rank - (count : Int))).toNat :=
    Nat.pow_pos (by decide)
  have hvalue := Decimal.value_mul_scale ⟨n, pointPosition rank - count⟩
  apply RoundsTo.of_scaled hscale hvalue hlow hhigh
  intro hodd
  apply hties
  rw [hodd]
  rfl

theorem pow_length_toDigits_le {n : Nat} (h : 0 < n) :
    10 ^ ((Nat.toDigits 10 n).length - 1) ≤ n := by
  have hlength : 0 < (Nat.toDigits 10 n).length := Nat.length_toDigits_pos
  by_cases hone : (Nat.toDigits 10 n).length = 1
  · rw [hone]
    exact h
  · have hle := Nat.length_toDigits_le_iff (b := 10) (n := n)
      (k := (Nat.toDigits 10 n).length - 1) (by decide) (by omega)
    omega

theorem zpow_length_le {num den shift : Nat} (hden : 0 < den) (h : den ≤ num * Nat.pow 10 shift) :
    (10 : ℚ) ^ ((Nat.toDigits 10 (num * Nat.pow 10 shift / den)).length - (shift : Int) - 1) * den ≤
      num := by
  have hquotient : 0 < num * Nat.pow 10 shift / den := Nat.div_pos h hden
  have hle : num * Nat.pow 10 shift / den * den ≤ num * Nat.pow 10 shift := Nat.div_mul_le_self _ _
  generalize num * Nat.pow 10 shift / den = n at *
  have hdigits : 10 ^ ((Nat.toDigits 10 n).length - 1) ≤ n := pow_length_toDigits_le hquotient
  have hlength : 0 < (Nat.toDigits 10 n).length := Nat.length_toDigits_pos
  generalize (Nat.toDigits 10 n).length = length at *
  have hexponent : (length : Int) - shift - 1 + (shift : Nat) = (length - 1 : Nat) := by omega
  have hpow : (10 : ℚ) ^ ((length : Int) - shift - 1) * 10 ^ shift = 10 ^ (length - 1) := by
    rw [← zpow_natCast, ← zpow_natCast, ← zpow_add₀ (by norm_num), hexponent]
  have hscaled : 10 ^ (length - 1) * den ≤ num * 10 ^ shift :=
    Nat.le_trans (Nat.mul_le_mul_right den hdigits) hle
  have hpos : (0 : ℚ) < 10 ^ shift := pow_pos (by norm_num) shift
  rw [← mul_le_mul_iff_of_pos_right hpos, mul_right_comm, hpow]
  exact_mod_cast hscaled

theorem pow_pointPosition_le (h : 0 < rank) :
    (10 : ℚ) ^ (pointPosition rank - 1) * unitsOfOne ≤ unitsAt rank := by
  have hunits : 0 < unitsAt rank := by
    have hlt : unitsAt 0 < unitsAt rank := unitsAt_strictMono h
    rwa [unitsAt_zero] at hlt
  have hone : unitsOfOne ≤ Nat.pow 10 400 := by decide +kernel
  have hnum : unitsOfOne ≤ unitsAt rank * Nat.pow 10 400 :=
    Nat.le_trans hone (Nat.le_mul_of_pos_left _ hunits)
  have hle := zpow_length_le unitsOfOne_pos hnum
  rwa [Nat.cast_ofNat] at hle

/-- On the grid of seventeen digits a point is closer to the next than the midpoints are. -/
theorem unit_lt_gap (rank : Nat) :
    (10 : ℚ) ^ (pointPosition (rank + 1) - 17) * (2 * unitsOfOne : Nat) <
      (stepAt rank + stepAt (rank + 1) : Nat) := by
  have hmagnitude := pow_pointPosition_le (Nat.succ_pos rank)
  have hsteps : (unitsAt (rank + 1) : ℚ) ≤
      (binadeSize * (stepAt rank + stepAt (rank + 1)) : Nat) :=
    Nat.cast_le.mpr (unitsAt_le_steps rank)
  have hexponent : pointPosition (rank + 1) - 1 = pointPosition (rank + 1) - 17 + (16 : Nat) := by
    omega
  have hpos : (0 : ℚ) < (stepAt rank + stepAt (rank + 1) : Nat) :=
    Nat.cast_pos.mpr (Nat.add_pos_left (stepAt_pos rank) _)
  rw [hexponent, zpow_add₀ (by norm_num), zpow_natCast] at hmagnitude
  generalize (10 : ℚ) ^ (pointPosition (rank + 1) - 17) = unit at *
  generalize stepAt rank + stepAt (rank + 1) = gap at *
  push_cast at *
  linarith

theorem scaled_unit_lt_gap {rank : Nat} {e : Int}
    (h : (10 : ℚ) ^ e * (2 * unitsOfOne : Nat) < (stepAt rank + stepAt (rank + 1) : Nat)) :
    Nat.pow 10 e.toNat * (2 * unitsOfOne) <
      (stepAt rank + stepAt (rank + 1)) * Nat.pow 10 (-e).toNat := by
  have hscale : (0 : ℚ) < (Nat.pow 10 (-e).toNat : Nat) :=
    Nat.cast_pos.mpr (Nat.pow_pos (by decide))
  have hvalue := Decimal.value_mul_scale ⟨1, e⟩
  simp only [Decimal.value, Nat.cast_one, one_mul] at hvalue
  apply (Nat.cast_lt (α := ℚ)).mp
  rw [← hvalue, Nat.cast_mul (stepAt rank + stepAt (rank + 1))]
  exact mul_lt_mul_of_pos_right h hscale

theorem exists_decimalOf? (rank : Nat) : ∃ d, decimalOf? (rank + 1) 17 = some d := by
  have hlt : unitsAt rank < unitsAt (rank + 1) := unitsAt_strictMono (Nat.lt_succ_self rank)
  have hlt' : unitsAt (rank + 1) < unitsAt (rank + 2) := unitsAt_strictMono (Nat.lt_succ_self _)
  have hwidth : unitsAt (rank + 2) = unitsAt rank + (stepAt rank + stepAt (rank + 1)) := by
    rw [unitsAt_succ, unitsAt_succ, Nat.add_assoc]
  have hunit := scaled_unit_lt_gap (unit_lt_gap rank)
  simp only [decimalOf?, Option.map_eq_some_iff, Nat.add_sub_cancel]
  generalize pointPosition (rank + 1) - (17 : Nat) = e at *
  have hscale : 0 < Nat.pow 10 (-e).toNat := Nat.pow_pos (by decide)
  have hpos : 0 < Nat.pow 10 e.toNat * (2 * unitsOfOne) :=
    Nat.mul_pos (Nat.pow_pos (by decide)) (Nat.mul_pos (by decide) unitsOfOne_pos)
  have hpoint : ∃ n, gridPoint? ((rank + 1) % 2 == 0)
      ((unitsAt rank + unitsAt (rank + 1)) * Nat.pow 10 (-e).toNat)
      (2 * unitsAt (rank + 1) * Nat.pow 10 (-e).toNat)
      ((unitsAt (rank + 1) + unitsAt (rank + 2)) * Nat.pow 10 (-e).toNat)
      (Nat.pow 10 e.toNat * (2 * unitsOfOne)) = some n := by
    apply exists_gridPoint? hpos
    · exact Nat.mul_lt_mul_of_pos_right (by omega) hscale
    · exact Nat.mul_lt_mul_of_pos_right (by omega) hscale
    · have hsum : unitsAt (rank + 1) + unitsAt (rank + 2) =
          unitsAt rank + unitsAt (rank + 1) + (stepAt rank + stepAt (rank + 1)) := by omega
      rw [hsum, Nat.add_mul _ (stepAt rank + stepAt (rank + 1))]
      exact Nat.add_lt_add_left hunit _
  obtain ⟨n, hn⟩ := hpoint
  exact ⟨_, n, hn, rfl⟩

theorem shortest_roundsTo (h : 0 < rank) : RoundsTo (shortest rank).value rank := by
  obtain ⟨n, rfl⟩ := Nat.exists_eq_succ_of_ne_zero h.ne'
  obtain ⟨d, hd⟩ := exists_decimalOf? n
  have hsome : ((List.range 17).findSome? fun k => decimalOf? (n + 1) (k + 1)).isSome := by
    rw [List.findSome?_isSome_iff]
    exact ⟨16, by decide, by rw [hd]; rfl⟩
  obtain ⟨found, hfound⟩ := Option.isSome_iff_exists.mp hsome
  obtain ⟨k, -, hk⟩ := List.exists_of_findSome?_eq_some hfound
  rw [shortest, hfound]
  exact decimalOf?_roundsTo hk

end Search

end ReportQuery.Double
