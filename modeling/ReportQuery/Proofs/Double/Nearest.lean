import ReportQuery.Proofs.Double.Shortest

namespace ReportQuery.Double

/-- The nearest multiple is off by at most half a step, and by half a step only if it is even. -/
theorem roundHalfEven_spec (num : Nat) {den : Nat} (hd : 0 < den) :
    2 * (roundHalfEven num den * den) ≤ 2 * num + den ∧
      2 * num ≤ 2 * (roundHalfEven num den * den) + den ∧
      (2 * (roundHalfEven num den * den) = 2 * num + den ∨
        2 * num = 2 * (roundHalfEven num den * den) + den → roundHalfEven num den % 2 = 0) := by
  have hdiv : num / den * den + num % den = num := Nat.div_add_mod' num den
  have hmod : num % den < den := Nat.mod_lt num hd
  have hnext : (num / den + 1) * den = num / den * den + den := Nat.succ_mul _ _
  rcases roundHalfEven_eq num den with ⟨hle, hq, htie⟩ | ⟨hle, hq, htie⟩
  · rw [hq]
    omega
  · rw [hq, hnext]
    omega

section Places

variable (binade : Nat) {place : Nat}

theorem binade_of_lt (hlow : binadeSize ≤ place) (hhigh : place < 2 * binadeSize) :
    (binade * binadeSize + place) / binadeSize - 1 = binade := by
  simp only [binadeSize] at *
  omega

theorem stepAt_of_lt (hlow : binadeSize ≤ place) (hhigh : place < 2 * binadeSize) :
    stepAt (binade * binadeSize + place) = 2 ^ binade := by
  rw [stepAt, binade_of_lt binade hlow hhigh]

theorem unitsAt_place (hlow : binadeSize ≤ place) (hhigh : place ≤ 2 * binadeSize) :
    unitsAt (binade * binadeSize + place) = place * 2 ^ binade := by
  have hinside (binade : Nat) {place : Nat} (hlow : binadeSize ≤ place)
      (hlt : place < 2 * binadeSize) :
      unitsAt (binade * binadeSize + place) = place * 2 ^ binade := by
    rw [unitsAt_eq_mul, stepAt_of_lt binade hlow hlt, binade_of_lt binade hlow hlt,
      Nat.add_sub_cancel_left]
  rcases Nat.lt_or_eq_of_le hhigh with hlt | rfl
  · exact hinside binade hlow hlt
  · have hnext : binade * binadeSize + 2 * binadeSize = (binade + 1) * binadeSize + binadeSize := by
      rw [Nat.succ_mul binade, Nat.add_assoc, ← Nat.two_mul]
    rw [hnext, hinside (binade + 1) (Nat.le_refl _) (by decide), Nat.pow_succ', ← Nat.mul_assoc,
      Nat.mul_comm binadeSize]

/-- The step before the first place of a binade may be half as long as the one before the others. -/
theorem stepAt_pred_of_lt (hlow : binadeSize < place) (hhigh : place ≤ 2 * binadeSize) :
    stepAt (binade * binadeSize + place - 1) = 2 ^ binade := by
  rw [Nat.add_sub_assoc (by omega)]
  exact stepAt_of_lt binade (by omega) (by omega)

theorem le_stepAt_place (hlow : binadeSize ≤ place) :
    2 ^ binade ≤ stepAt (binade * binadeSize + place) := by
  rw [← stepAt_of_lt binade (Nat.le_refl binadeSize) (by decide)]
  exact stepAt_mono (Nat.add_le_add_left hlow _)

end Places

theorem unitsAt_pred {rank : Nat} (h : 0 < rank) :
    unitsAt (rank - 1) + stepAt (rank - 1) = unitsAt rank := by
  rw [← unitsAt_succ, Nat.sub_add_cancel h]

theorem between_midpoints {units binade place : Nat} (hlow : binadeSize ≤ place)
    (hhigh : place ≤ 2 * binadeSize) (hfirst : binadeSize * 2 ^ binade ≤ units)
    (hbelow : 2 * (place * 2 ^ binade) ≤ 2 * units + 2 ^ binade)
    (habove : 2 * units ≤ 2 * (place * 2 ^ binade) + 2 ^ binade) :
    unitsAt (binade * binadeSize + place - 1) + unitsAt (binade * binadeSize + place) ≤ 2 * units ∧
      2 * units ≤
        unitsAt (binade * binadeSize + place) + unitsAt (binade * binadeSize + place + 1) := by
  have hpos : 0 < binadeSize := by decide
  have hmagnitude := unitsAt_place binade hlow hhigh
  have hrank : 0 < binade * binadeSize + place := by omega
  have hpred := unitsAt_pred hrank
  have hstep := le_stepAt_place binade hlow
  rw [unitsAt_succ, hmagnitude]
  rw [hmagnitude] at hpred
  apply And.intro
  · rcases Nat.lt_or_eq_of_le hlow with hlt | rfl
    · rw [stepAt_pred_of_lt binade hlt hhigh] at hpred
      omega
    · omega
  · omega

/-- The nearest place is the one that is rounded to, since the place is even if it is taken for a
tie. -/
theorem roundsTo_place {v : ℚ} {units binade place : Nat}
    (hv : v * (2 * unitsOfOne : Nat) = (2 * units : Nat)) (hlow : binadeSize ≤ place)
    (hhigh : place ≤ 2 * binadeSize) (hfirst : binadeSize * 2 ^ binade ≤ units)
    (hplace : place = roundHalfEven units (2 ^ binade)) :
    RoundsTo v (binade * binadeSize + place) := by
  obtain ⟨hbelow, habove, htie⟩ := roundHalfEven_spec units (Nat.two_pow_pos binade)
  rw [← hplace] at hbelow habove htie
  obtain ⟨hle, hge⟩ := between_midpoints hlow hhigh hfirst hbelow habove
  rw [← mul_one (v * _), ← Nat.cast_one] at hv
  apply RoundsTo.of_scaled Nat.one_pos hv
  · rwa [Nat.mul_one]
  · rwa [Nat.mul_one]
  · intro hodd
    -- The ends of the binade are even, so that the steps on both sides have the same length.
    have hplace : place % 2 = 1 ∧ binadeSize < place ∧ place < 2 * binadeSize := by
      simp only [binadeSize] at *
      omega
    obtain ⟨hplace, hlt, hlt'⟩ := hplace
    have hrank : 0 < binade * binadeSize + place := by omega
    have hpred := unitsAt_pred hrank
    rw [stepAt_pred_of_lt binade hlt hhigh] at hpred
    rw [Nat.mul_one, Nat.mul_one, unitsAt_succ, stepAt_of_lt binade hlow hlt']
    rw [unitsAt_place binade hlow hhigh] at hpred ⊢
    omega

theorem roundsTo_nearestRank (n : Nat) : RoundsTo n (nearestRank n 1) := by
  by_cases hn : n = 0
  · rw [hn, nearestRank_zero, Nat.cast_zero]
    exact roundsTo_zero
  have hm : 52 + (n.log2 + 1022) = n.log2 + 1074 := by omega
  have hone : unitsOfOne = 2 ^ 1074 := one_shiftLeft_eq 1074
  have hvalue : (n : ℚ) * (2 * unitsOfOne : Nat) = (2 * (n * 2 ^ 1074) : Nat) := by
    rw [← Nat.cast_mul, hone, Nat.mul_left_comm]
  rw [nearestRank_of_ne_zero hn]
  apply roundsTo_place hvalue
  · exact le_roundHalfEven_of_binade hn hm
  · exact roundHalfEven_le_of_binade hm
  · have hpow : binadeSize * 2 ^ (n.log2 + 1022) = 2 ^ n.log2 * 2 ^ 1074 := by
      rw [← Nat.pow_add, ← hm, Nat.pow_add 2 52]
    rw [hpow]
    exact Nat.mul_le_mul_right _ (Nat.log2_self_le hn)
  · rfl

/-- The number that a sign and a rank stand for. -/
def number (negative : Bool) (rank : Nat) : ℚ :=
  if negative then -(unitsAt rank / unitsOfOne) else unitsAt rank / unitsOfOne

/-- Whether a sign and a rank are those of the double nearest to a number: no other finite double is
closer, and where another number is as close the rank is even. Zero has no sign. -/
structure Nearest (v : ℚ) (negative : Bool) (rank : Fin rankLimit) : Prop where
  sign : negative = decide (v < 0)
  closest : ∀ other (r : Fin rankLimit), |number negative rank - v| ≤ |number other r - v|
  ties : ∀ other (r : Fin rankLimit), |number negative rank - v| = |number other r - v| →
    number other r = number negative rank ∨ rank.val % 2 = 0

def IsNearest (v : ℚ) : Double → Prop
  | .finite negative rank => Nearest v negative rank
  | _ => False

section Distances

variable {a b v : ℚ}

theorem abs_sub_le_iff_mul_nonneg : |a - v| ≤ |b - v| ↔ 0 ≤ (b - a) * (a + b - 2 * v) := by
  have hsquares : (b - a) * (a + b - 2 * v) = (b - v) ^ 2 - (a - v) ^ 2 := by ring
  rw [← sq_le_sq, hsquares, sub_nonneg]

theorem eq_or_add_eq_of_abs_sub_eq (h : |a - v| = |b - v|) : b = a ∨ a + b = 2 * v := by
  rcases abs_eq_abs.mp h with heq | heq
  · left
    linarith
  · right
    linarith

end Distances

theorem unitsOfOne_cast_pos : (0 : ℚ) < unitsOfOne := Nat.cast_pos.mpr unitsOfOne_pos

theorem number_false_strictMono : StrictMono (number false) := by
  intro rank other hlt
  apply div_lt_div_of_pos_right _ unitsOfOne_cast_pos
  exact Nat.cast_lt.mpr (unitsAt_strictMono hlt)

theorem number_not (negative : Bool) (rank : Nat) :
    number (!negative) rank = -number negative rank := by
  cases negative with
  | false => rfl
  | true => exact (neg_neg _).symm

theorem number_injective (negative : Bool) : Function.Injective (number negative) := by
  cases negative with
  | false => exact number_false_strictMono.injective
  | true => exact neg_injective.comp number_false_strictMono.injective

theorem number_false_zero : number false 0 = 0 := by
  rw [number, unitsAt_zero]
  simp

theorem number_false_nonneg (rank : Nat) : 0 ≤ number false rank := by
  rw [← number_false_zero]
  exact number_false_strictMono.monotone (Nat.zero_le rank)

/-- No number lies between those of neighbouring ranks. -/
theorem number_cases (rank : Nat) (other : Bool) (r : Nat) :
    number other r = number false rank ∨
      (number other r < number false rank ∧ number other r ≤ number false (rank - 1)) ∨
      number false rank < number other r ∧ number false (rank + 1) ≤ number other r := by
  cases other with
  | false =>
    rcases Nat.lt_trichotomy r rank with hlt | rfl | hgt
    · right; left
      exact ⟨number_false_strictMono hlt, number_false_strictMono.monotone (by omega)⟩
    · left
      rfl
    · right; right
      exact ⟨number_false_strictMono hgt, number_false_strictMono.monotone hgt⟩
  | true =>
    have hneg : number true r = -number false r := number_not false r
    have hr : 0 ≤ number false r := number_false_nonneg r
    have hrank : 0 ≤ number false rank := number_false_nonneg rank
    have hpred : 0 ≤ number false (rank - 1) := number_false_nonneg (rank - 1)
    rcases eq_or_lt_of_le (show number true r ≤ number false rank by linarith) with heq | hlt
    · left
      exact heq
    · right; left
      exact ⟨hlt, by linarith⟩

section Nearest

variable {v : ℚ} {rank : Nat}

theorem number_add_eq_div (r s : Nat) :
    number false r + number false s = (unitsAt r + unitsAt s : Nat) / (unitsOfOne : ℚ) := by
  rw [Nat.cast_add, add_div]
  rfl

theorem two_mul_mul_unitsOfOne (v : ℚ) : 2 * v * unitsOfOne = v * (2 * unitsOfOne : Nat) := by
  push_cast
  ring

theorem RoundsTo.number_low (h : RoundsTo v rank) :
    number false (rank - 1) + number false rank ≤ 2 * v := by
  rw [number_add_eq_div, div_le_iff₀ unitsOfOne_cast_pos, two_mul_mul_unitsOfOne]
  exact h.low

theorem RoundsTo.number_high (h : RoundsTo v rank) :
    2 * v ≤ number false rank + number false (rank + 1) := by
  rw [number_add_eq_div, le_div_iff₀ unitsOfOne_cast_pos, two_mul_mul_unitsOfOne]
  exact h.high

theorem RoundsTo.number_ties (h : RoundsTo v rank) (hodd : rank % 2 = 1) :
    number false (rank - 1) + number false rank ≠ 2 * v ∧
      2 * v ≠ number false rank + number false (rank + 1) := by
  have hne : (unitsOfOne : ℚ) ≠ 0 := unitsOfOne_cast_pos.ne'
  rw [number_add_eq_div, number_add_eq_div, Ne, div_eq_iff hne, Ne, eq_div_iff hne,
    two_mul_mul_unitsOfOne]
  exact h.ties hodd

theorem RoundsTo.closest (h : RoundsTo v rank) (other : Bool) (r : Nat) :
    |number false rank - v| ≤ |number other r - v| := by
  have hlow := h.number_low
  have hhigh := h.number_high
  apply abs_sub_le_iff_mul_nonneg.mpr
  rcases number_cases rank other r with heq | ⟨hlt, hle⟩ | ⟨hgt, hge⟩
  · rw [heq, sub_self, zero_mul]
  · exact mul_nonneg_of_nonpos_of_nonpos (by linarith) (by linarith)
  · exact mul_nonneg (by linarith) (by linarith)

theorem RoundsTo.ties_even (h : RoundsTo v rank) (other : Bool) (r : Nat)
    (heq : |number false rank - v| = |number other r - v|) :
    number other r = number false rank ∨ rank % 2 = 0 := by
  rcases Nat.mod_two_eq_zero_or_one rank with heven | hodd
  · right
    exact heven
  left
  rcases eq_or_add_eq_of_abs_sub_eq heq with heq | hmid
  · exact heq
  -- The number is the midpoint, and nothing but a neighbour is as far away on the other side.
  have hlow := h.number_low
  have hhigh := h.number_high
  obtain ⟨hne, hne'⟩ := h.number_ties hodd
  rcases number_cases rank other r with heq | ⟨hlt, hle⟩ | ⟨hgt, hge⟩
  · exact heq
  · exact absurd (le_antisymm hlow (by linarith)) hne
  · exact absurd (le_antisymm hhigh (by linarith)) hne'

theorem number_xor (negative flip : Bool) (r : Nat) :
    number (negative ^^ flip) r = if flip then -number negative r else number negative r := by
  cases flip with
  | false => rw [Bool.xor_false, if_neg Bool.false_ne_true]
  | true => rw [Bool.xor_true, if_pos rfl, number_not]

theorem abs_number_sub (v : ℚ) (negative : Bool) (r : Nat) :
    |number negative r - v| = abs (number (negative ^^ decide (v < 0)) r - |v|) := by
  rw [number_xor]
  by_cases hv : v < 0
  · rw [if_pos (decide_eq_true hv), abs_of_neg hv, ← neg_sub', abs_neg]
  · rw [if_neg (ne_true_of_eq_false (decide_eq_false hv)), abs_of_nonneg (le_of_not_gt hv)]

theorem RoundsTo.nearest {rank : Fin rankLimit} (h : RoundsTo |v| rank) :
    Nearest v (v < 0) rank where
  sign := rfl
  closest other r := by
    rw [abs_number_sub v other, abs_number_sub, Bool.xor_self]
    exact h.closest _ r
  ties other r heq := by
    rw [abs_number_sub v other, abs_number_sub, Bool.xor_self] at heq
    apply (h.ties_even _ r heq).imp_left
    intro hsame
    rw [← Bool.xor_self (decide (v < 0)), number_xor, number_xor] at hsame
    split at hsame
    · exact neg_injective hsame
    · exact hsame

theorem number_between (negative : Bool) {low rank high : Nat} (hlow : low < rank)
    (hhigh : rank < high) :
    (number negative rank - number negative low) *
      (number negative rank - number negative high) < 0 := by
  have hlow' : number false low < number false rank := number_false_strictMono hlow
  have hhigh' : number false rank < number false high := number_false_strictMono hhigh
  have hneg : (number false rank - number false low) *
      (number false rank - number false high) < 0 :=
    mul_neg_of_pos_of_neg (sub_pos.mpr hlow') (sub_neg.mpr hhigh')
  cases negative with
  | false => exact hneg
  | true =>
    rw [← Bool.not_false, number_not, number_not, number_not, ← neg_sub', ← neg_sub', neg_mul_neg]
    exact hneg

theorem Nearest.not_lt {negative : Bool} {rank other : Fin rankLimit}
    (h : Nearest v negative rank) (ho : Nearest v negative other) : ¬ rank < other := by
  intro hlt
  have hrank : rank.val < other.val := hlt
  have heq : |number negative rank - v| = |number negative other - v| :=
    le_antisymm (h.closest negative other) (ho.closest negative rank)
  have hne : number negative other ≠ number negative rank :=
    fun hsame => hrank.ne' (number_injective negative hsame)
  have heven : rank.val % 2 = 0 := (h.ties negative other heq).resolve_left hne
  have heven' : other.val % 2 = 0 := (ho.ties negative rank heq.symm).resolve_left hne.symm
  have hmid : number negative rank + number negative other = 2 * v :=
    (eq_or_add_eq_of_abs_sub_eq heq).resolve_left hne
  have hnext : rank.val + 1 < other.val := by omega
  have hcloser := h.closest negative ⟨rank.val + 1, Nat.lt_trans hnext other.isLt⟩
  rw [abs_sub_le_iff_mul_nonneg, ← hmid, add_sub_add_left_eq_sub] at hcloser
  exact not_lt_of_ge hcloser (number_between negative (Nat.lt_succ_self _) hnext)

theorem IsNearest.unique {x y : Double} (h : IsNearest v x) (h' : IsNearest v y) : x = y := by
  cases x with
  | finite negative rank =>
    cases y with
    | finite negative' rank' =>
      obtain rfl : negative = negative' := h.sign.trans h'.sign.symm
      have hrank : rank = rank' :=
        Fin.ext (Nat.le_antisymm (Nat.not_lt.mp (h'.not_lt h)) (Nat.not_lt.mp (h.not_lt h')))
      rw [hrank]
    | infinity _ => exact h'.elim
    | nan => exact h'.elim
  | infinity _ => exact h.elim
  | nan => exact h.elim

end Nearest

/-- The finite double of an integer is the one nearest to it. -/
theorem isNearest_ofInt {n : Int} (h : (ofInt n).isFinite) : IsNearest n (ofInt n) := by
  have hrank : nearestRank n.natAbs 1 < rankLimit := isFinite_ofRank_iff.mp h
  have hround : RoundsTo |(n : ℚ)| (nearestRank n.natAbs 1) := by
    rw [← Int.cast_abs, ← Int.natCast_natAbs, Int.cast_natCast]
    exact roundsTo_nearestRank n.natAbs
  have hnearest : Nearest n (decide ((n : ℚ) < 0)) ⟨_, hrank⟩ := hround.nearest
  simp only [Int.cast_lt_zero] at hnearest
  rw [ofInt, ofRank, dif_pos hrank]
  exact hnearest

end ReportQuery.Double
