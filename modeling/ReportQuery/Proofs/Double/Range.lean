import Mathlib.Algebra.Group.Nat.Defs
import ReportQuery.Attempts
import ReportQuery.Filter.Numeric

namespace ReportQuery

namespace Double

section Rounding

variable {num den : Nat}

theorem roundHalfEven_eq (num den : Nat) :
    2 * (num % den) ≤ den ∧ roundHalfEven num den = num / den ∧
        (2 * (num % den) = den → num / den % 2 = 0) ∨
      den ≤ 2 * (num % den) ∧ roundHalfEven num den = num / den + 1 ∧
        (2 * (num % den) = den → num / den % 2 = 1) := by
  simp only [roundHalfEven]
  split
  · omega
  · split <;> omega

theorem div_le_roundHalfEven : num / den ≤ roundHalfEven num den := by
  rcases roundHalfEven_eq num den with ⟨-, hq, -⟩ | ⟨-, hq, -⟩
  · exact Nat.le_of_eq hq.symm
  · exact hq ▸ Nat.le_succ _

theorem roundHalfEven_le_div_add_one : roundHalfEven num den ≤ num / den + 1 := by
  rcases roundHalfEven_eq num den with ⟨-, hq, -⟩ | ⟨-, hq, -⟩
  · exact hq ▸ Nat.le_succ _
  · exact Nat.le_of_eq hq

/-- Below an even integer only what is more than half a unit under it stays: the tie goes up. -/
theorem roundHalfEven_lt_even_iff {k : Nat} (hd : 0 < den) (hk : 0 < k) :
    roundHalfEven num den < 2 * k ↔ 2 * num < (4 * k - 1) * den := by
  have hdiv : num / den * den + num % den = num := by
    rw [Nat.mul_comm]
    exact Nat.div_add_mod num den
  have hmod : num % den < den := Nat.mod_lt num hd
  have hhalf : (4 * k - 1) * den = 2 * ((2 * k - 1) * den) + den := by
    rw [← Nat.mul_assoc, ← Nat.succ_mul]
    congr 1
    omega
  rcases Nat.lt_trichotomy (num / den) (2 * k - 1) with hlt | heq | hgt
  · have hmul : (num / den + 1) * den ≤ (2 * k - 1) * den := Nat.mul_le_mul_right den hlt
    have hround : roundHalfEven num den ≤ num / den + 1 := roundHalfEven_le_div_add_one
    rw [Nat.succ_mul] at hmul
    omega
  · rw [heq] at hdiv
    rcases roundHalfEven_eq num den with ⟨hle, hq, htie⟩ | ⟨hle, hq, htie⟩
    all_goals rw [heq] at hq htie; omega
  · have hmul : (2 * k - 1 + 1) * den ≤ num / den * den := Nat.mul_le_mul_right den hgt
    have hround : num / den ≤ roundHalfEven num den := div_le_roundHalfEven
    rw [Nat.succ_mul] at hmul
    omega

end Rounding

section Place

variable {n k m : Nat}

theorem log2_mul_two_pow (hn : n ≠ 0) : (n * 2 ^ k).log2 = n.log2 + k := by
  have hne : n * 2 ^ k ≠ 0 := Nat.mul_ne_zero hn (Nat.ne_of_gt (Nat.two_pow_pos k))
  rw [Nat.log2_eq_iff hne]
  refine ⟨?_, ?_⟩
  · rw [Nat.pow_add]
    exact Nat.mul_le_mul_right _ (Nat.log2_self_le hn)
  · rw [Nat.add_right_comm, Nat.pow_add]
    exact Nat.mul_lt_mul_of_pos_right Nat.lt_log2_self (Nat.two_pow_pos k)

theorem le_roundHalfEven_of_binade (hn : n ≠ 0) (hm : 52 + m = n.log2 + k) :
    2 ^ 52 ≤ roundHalfEven (n * 2 ^ k) (2 ^ m) := by
  apply Nat.le_trans _ div_le_roundHalfEven
  rw [Nat.le_div_iff_mul_le (Nat.two_pow_pos m), ← Nat.pow_add, hm, Nat.pow_add]
  exact Nat.mul_le_mul_right _ (Nat.log2_self_le hn)

theorem roundHalfEven_le_of_binade (hm : 52 + m = n.log2 + k) :
    roundHalfEven (n * 2 ^ k) (2 ^ m) ≤ 2 ^ 53 := by
  have hm' : 53 + m = n.log2 + 1 + k := by omega
  apply Nat.le_trans roundHalfEven_le_div_add_one
  rw [Nat.succ_le_iff, Nat.div_lt_iff_lt_mul (Nat.two_pow_pos m), ← Nat.pow_add, hm', Nat.pow_add]
  exact Nat.mul_lt_mul_of_pos_right Nat.lt_log2_self (Nat.two_pow_pos k)

theorem roundHalfEven_lt_iff_of_binade {j : Nat} (hm : m = j + (k + 1)) :
    roundHalfEven (n * 2 ^ k) (2 ^ m) < 2 * 2 ^ 52 ↔ n < (2 ^ 54 - 1) * 2 ^ j := by
  have hleft : 2 * (n * 2 ^ k) = n * 2 ^ (k + 1) := by
    rw [Nat.mul_left_comm, ← Nat.pow_succ']
  have hfour : 4 * 2 ^ 52 = 2 ^ 54 := by decide
  have hright : (4 * 2 ^ 52 - 1) * 2 ^ m = (2 ^ 54 - 1) * 2 ^ j * 2 ^ (k + 1) := by
    rw [hfour, hm, Nat.pow_add 2 j, Nat.mul_assoc]
  rw [roundHalfEven_lt_even_iff (Nat.two_pow_pos m) (Nat.two_pow_pos 52), hleft, hright,
    Nat.mul_lt_mul_right (Nat.two_pow_pos (k + 1))]

theorem lt_of_log2_lt {j : Nat} (hn : n ≠ 0) (h : n.log2 < 53 + j) : n < (2 ^ 54 - 1) * 2 ^ j := by
  apply Nat.lt_of_lt_of_le ((Nat.log2_lt hn).mp h)
  rw [Nat.pow_add]
  exact Nat.mul_le_mul_right _ (by decide)

theorem le_of_le_log2 {j : Nat} (hn : n ≠ 0) (h : 54 + j ≤ n.log2) : (2 ^ 54 - 1) * 2 ^ j ≤ n := by
  apply Nat.le_trans _ ((Nat.le_log2 hn).mp h)
  rw [Nat.pow_add]
  exact Nat.mul_le_mul_right _ (Nat.sub_le _ _)

end Place

/-- The least magnitude of an integer whose nearest double is infinite, `2 ^ 1024 - 2 ^ 970`. -/
def integerLimit : Nat := (2 ^ 54 - 1) * 2 ^ 970

theorem isFinite_ofRank_iff {negative : Bool} {rank : Nat} :
    (ofRank negative rank).isFinite ↔ rank < rankLimit := by
  rw [ofRank]
  split
  · next h => exact iff_of_true rfl h
  · next h => exact iff_of_false Bool.false_ne_true h

-- The library states this for another form of the power.
theorem one_shiftLeft_eq (k : Nat) : 1 <<< k = 2 ^ k := Nat.one_shiftLeft k

theorem nearestRank_zero : nearestRank 0 1 = 0 := by decide +kernel

theorem nearestRank_of_ne_zero {n : Nat} (hn : n ≠ 0) :
    nearestRank n 1 =
      (n.log2 + 1022) * binadeSize + roundHalfEven (n * 2 ^ 1074) (2 ^ (n.log2 + 1022)) := by
  have hbinade : n.log2 + 1074 - 52 = n.log2 + 1022 := by omega
  have hone : unitsOfOne = 2 ^ 1074 := one_shiftLeft_eq 1074
  simp only [nearestRank, hone, Nat.div_one, log2_mul_two_pow hn, hbinade, one_shiftLeft_eq]

theorem nearestRank_lt_iff {n : Nat} : nearestRank n 1 < rankLimit ↔ n < integerLimit := by
  rw [integerLimit]
  by_cases hn : n = 0
  · subst hn
    exact iff_of_true (by decide +kernel) (by decide +kernel)
  rw [nearestRank_of_ne_zero hn]
  have hm : 52 + (n.log2 + 1022) = n.log2 + 1074 := by omega
  have hlow := le_roundHalfEven_of_binade hn hm
  have hhigh := roundHalfEven_le_of_binade hm
  have hplace (h : n.log2 + 1022 = 970 + (1074 + 1)) := roundHalfEven_lt_iff_of_binade (n := n) h
  generalize roundHalfEven (n * 2 ^ 1074) (2 ^ (n.log2 + 1022)) = place at *
  simp only [rankLimit, binadeSize]
  rcases Nat.lt_trichotomy n.log2 1023 with hlt | heq | hgt
  · exact iff_of_true (by omega) (lt_of_log2_lt (j := 970) hn hlt)
  · rw [← hplace (by rw [heq])]
    clear hplace
    omega
  · exact iff_of_false (by omega) (Nat.not_lt.mpr (le_of_le_log2 (j := 970) hn hgt))

/-- An integer has a finite double exactly if its magnitude is under the limit. -/
theorem isFinite_ofInt_iff {n : Int} : (ofInt n).isFinite ↔ n.natAbs < integerLimit := by
  rw [ofInt, isFinite_ofRank_iff, nearestRank_lt_iff]

theorem ofInt?_eq_error_iff {n : Int} {e : ConversionError} :
    ofInt? n = .error e ↔ integerLimit ≤ n.natAbs ∧ e = .integerTooLarge n := by
  rw [ofInt?, ← Nat.not_lt, ← isFinite_ofInt_iff]
  by_cases h : (ofInt n).isFinite
  · simp [h]
  · simp [h, eq_comm]

end Double

/-- Of all values only an integer past the limit has a conversion that fails. -/
theorem Json.toNumber_eq_error_iff {value : Json} {e : ConversionError} :
    value.toNumber = .error e ↔
      ∃ n, value = .int n ∧ Double.integerLimit ≤ n.natAbs ∧ e = .integerTooLarge n := by
  cases value with
  | int n =>
    have hmap : (Json.int n).toNumber = .error e ↔ Double.ofInt? n = .error e := map_eq_error_iff
    rw [hmap, Double.ofInt?_eq_error_iff]
    simp
  | _ => simp [toNumber]

end ReportQuery
