import ReportQuery.Double.Text
import ReportQuery.Proofs.Double.Shortest
import ReportQuery.Proofs.Text.Words

namespace ReportQuery.Double

open Json.Token (isWordChar)
open Text (cutAt cutAt_append cutAt_of_not_mem signed_append_inj)

variable {digits : List Char}

theorem Decimal.value_mul_pow {n k : Nat} {e : Int} :
    (⟨n * 10 ^ k, e⟩ : Decimal).value = (⟨n, e + k⟩ : Decimal).value := by
  simp only [value]
  rw [zpow_add₀ (by norm_num), zpow_natCast]
  push_cast
  ring

def mantissa (s : List Char) : Decimal :=
  let (whole, fraction) := cutAt '.' s
  ⟨Nat.ofDigitChars 10 (whole ++ fraction) 0, -fraction.length⟩

def signedSize : List Char → Int
  | [] => 0
  | sign :: size =>
    let magnitude : Int := Nat.ofDigitChars 10 size 0
    if sign = '-' then -magnitude else magnitude

/-- The number that an unsigned numeral writes. -/
def written (s : List Char) : Decimal :=
  let (front, exponent) := cutAt 'e' s
  ⟨(mantissa front).digits, (mantissa front).exponent + signedSize exponent⟩

section Reading

variable {front rest : List Char}

theorem mantissa_of_not_mem (h : '.' ∉ front) :
    mantissa front = ⟨Nat.ofDigitChars 10 front 0, 0⟩ := by
  rw [mantissa, cutAt_of_not_mem h]
  simp only [List.append_nil, List.length_nil]
  rfl

theorem mantissa_append (h : '.' ∉ front) :
    mantissa (front ++ '.' :: rest) = ⟨Nat.ofDigitChars 10 (front ++ rest) 0, -rest.length⟩ := by
  rw [mantissa, cutAt_append h]

theorem written_of_not_mem (h : 'e' ∉ front) : written front = mantissa front := by
  rw [written, cutAt_of_not_mem h]
  simp only [signedSize, Int.add_zero]

theorem written_append (h : 'e' ∉ front) :
    written (front ++ 'e' :: rest) =
      ⟨(mantissa front).digits, (mantissa front).exponent + signedSize rest⟩ := by
  rw [written, cutAt_append h]

end Reading

theorem ofDigitChars_zeros_append {k : Nat} :
    Nat.ofDigitChars 10 (zeros k ++ digits) 0 = Nat.ofDigitChars 10 digits 0 := by
  rw [zeros, Nat.ofDigitChars_append, Nat.ofDigitChars_replicate_zero, Nat.mul_zero]

theorem ofDigitChars_append_zeros {k : Nat} :
    Nat.ofDigitChars 10 (digits ++ zeros k) 0 = Nat.ofDigitChars 10 digits 0 * 10 ^ k := by
  rw [zeros, Nat.ofDigitChars_append, Nat.ofDigitChars_replicate_zero, Nat.mul_comm]

theorem ofDigitChars_append_zeros_one {k : Nat} :
    Nat.ofDigitChars 10 (digits ++ zeros k ++ zeros 1) 0 =
      Nat.ofDigitChars 10 digits 0 * 10 ^ (k + 1) := by
  rw [List.append_assoc, zeros, zeros, List.replicate_append_replicate]
  exact ofDigitChars_append_zeros

theorem not_mem_of_isDigit {c : Char} (hd : ∀ d ∈ digits, d.isDigit) (hc : c.isDigit = false) :
    c ∉ digits := by
  intro h
  rw [hd c h] at hc
  cases hc

theorem isDigit_of_mem_toDigits {n : Nat} : ∀ d ∈ Nat.toDigits 10 n, d.isDigit :=
  fun _ h => Nat.isDigit_of_mem_toDigits (Nat.zero_lt_succ 9) (Nat.le_refl 10) h

theorem isDigit_zeros {k : Nat} : ∀ d ∈ zeros k, d.isDigit := by
  intro d hd
  rw [(List.mem_replicate.mp hd).2]
  rfl

theorem signedSize_exponent (e : Int) (k : Nat) :
    signedSize ((if e < 0 then '-' else '+') :: (zeros k ++ Nat.toDigits 10 e.natAbs)) = e := by
  rw [signedSize, ofDigitChars_zeros_append, Nat.ofDigitChars_ten_toDigits]
  by_cases h : e < 0
  · simp only [h, if_true]
    omega
  · simp only [h, if_false, Char.reduceEq]
    omega

/-- A numeral in which all but the point are digits, some of them before it. -/
structure IsPointed (whole fraction : List Char) : Prop where
  nonempty : whole ≠ []
  isDigit : ∀ d ∈ whole ++ fraction, d.isDigit

theorem IsPointed.not_mem {whole fraction : List Char} {mark : Char} (h : IsPointed whole fraction)
    (hm : mark.isDigit = false) (hp : mark ≠ '.') : mark ∉ whole ++ '.' :: fraction := by
  have hmark : mark ∉ whole ++ fraction := not_mem_of_isDigit h.isDigit hm
  rw [List.mem_append, not_or] at hmark
  rw [List.mem_append, List.mem_cons, not_or, not_or]
  exact ⟨hmark.1, hp, hmark.2⟩

theorem IsPointed.mantissa_eq {whole fraction : List Char} (h : IsPointed whole fraction) :
    mantissa (whole ++ '.' :: fraction) =
      ⟨Nat.ofDigitChars 10 (whole ++ fraction) 0, -fraction.length⟩ := by
  have hpoint : '.' ∉ whole ++ fraction := not_mem_of_isDigit h.isDigit rfl
  exact mantissa_append fun hmem => hpoint (List.mem_append_left _ hmem)

theorem isPointed_take_drop {k : Nat} (hd : ∀ d ∈ digits, d.isDigit) (hk : 0 < k)
    (hne : digits ≠ []) : IsPointed (digits.take k) (digits.drop k) := by
  constructor
  · rw [ne_eq, List.take_eq_nil_iff]
    rintro (hzero | hnil)
    · omega
    · exact hne hnil
  · rw [List.take_append_drop]
    exact hd

section Layouts

variable {layout : Layout} {point : Int}

theorem arrange_positional (hd : ∀ d ∈ digits, d.isDigit) (hne : digits ≠ [])
    (h : layout.leastPositional ≤ point - 1 ∧ point - 1 < layout.positionalEnd) :
    ∃ whole fraction, ∃ k : Nat, layout.arrange digits point = whole ++ '.' :: fraction ∧
      IsPointed whole fraction ∧
      Nat.ofDigitChars 10 (whole ++ fraction) 0 = Nat.ofDigitChars 10 digits 0 * 10 ^ k ∧
      -(fraction.length : Int) + k = point - digits.length := by
  simp only [Layout.arrange, if_pos h]
  split
  · next hneg =>
    refine ⟨zeros 1, zeros (-point).toNat ++ digits, 0, rfl, ⟨List.cons_ne_nil _ _, ?_⟩, ?_, ?_⟩
    · rw [List.forall_mem_append, List.forall_mem_append]
      exact ⟨isDigit_zeros, isDigit_zeros, hd⟩
    · rw [ofDigitChars_zeros_append, ofDigitChars_zeros_append, Nat.pow_zero, Nat.mul_one]
    · rw [List.length_append, zeros, List.length_replicate]
      omega
  · next hpos =>
    split
    · next hwhole =>
      refine ⟨digits ++ zeros (point.toNat - digits.length), zeros 1, _, rfl, ⟨?_, ?_⟩,
        ofDigitChars_append_zeros_one, ?_⟩
      · exact List.append_ne_nil_of_left_ne_nil hne _
      · rw [List.forall_mem_append, List.forall_mem_append]
        exact ⟨⟨hd, isDigit_zeros⟩, isDigit_zeros⟩
      · rw [zeros, List.length_replicate]
        omega
    · next hwhole =>
      refine ⟨digits.take point.toNat, digits.drop point.toNat, 0, rfl,
        isPointed_take_drop hd (by omega) hne, ?_, ?_⟩
      · rw [List.take_append_drop, Nat.pow_zero, Nat.mul_one]
      · rw [List.length_drop]
        omega

theorem arrange_scientific (hd : ∀ d ∈ digits, d.isDigit) (hne : digits ≠ [])
    (h : ¬ (layout.leastPositional ≤ point - 1 ∧ point - 1 < layout.positionalEnd)) :
    ∃ front k,
      layout.arrange digits point = front ++
        'e' :: (if point - 1 < 0 then '-' else '+') ::
          (zeros k ++ Nat.toDigits 10 (point - 1).natAbs) ∧
      (front = digits ∧ digits.length = 1 ∨
        front = digits.take 1 ++ '.' :: digits.drop 1 ∧
          IsPointed (digits.take 1) (digits.drop 1)) := by
  have hlength : 0 < digits.length := List.length_pos_iff.mpr hne
  simp only [Layout.arrange, if_neg h, List.append_assoc, List.cons_append]
  by_cases hone : digits.length ≤ 1
  · rw [if_pos hone, List.nil_append, List.take_of_length_le hone]
    exact ⟨digits, _, rfl, .inl ⟨rfl, by omega⟩⟩
  · rw [if_neg hone, ← List.append_assoc]
    exact ⟨_, _, rfl, .inr ⟨rfl, isPointed_take_drop hd Nat.one_pos hne⟩⟩

/-- A layout writes its digits as `0.d₁d₂… * 10 ^ point`. -/
theorem written_arrange (hd : ∀ d ∈ digits, d.isDigit) (hne : digits ≠ []) :
    (written (layout.arrange digits point)).value =
      (⟨Nat.ofDigitChars 10 digits 0, point - digits.length⟩ : Decimal).value := by
  by_cases h : layout.leastPositional ≤ point - 1 ∧ point - 1 < layout.positionalEnd
  · obtain ⟨whole, fraction, k, heq, hpointed, hdigits, hplace⟩ := arrange_positional hd hne h
    rw [heq, written_of_not_mem (hpointed.not_mem rfl (by decide)), hpointed.mantissa_eq, hdigits,
      Decimal.value_mul_pow, hplace]
  · obtain ⟨front, k, heq, ⟨rfl, hone⟩ | ⟨rfl, hpointed⟩⟩ := arrange_scientific hd hne h
    · rw [heq, written_append (not_mem_of_isDigit hd rfl), signedSize_exponent,
        mantissa_of_not_mem (not_mem_of_isDigit hd rfl), hone]
      congr 2
      exact Int.zero_add _
    · have hlength : 0 < digits.length := List.length_pos_iff.mpr hne
      rw [heq, written_append (hpointed.not_mem rfl (by decide)), signedSize_exponent,
        hpointed.mantissa_eq, List.take_append_drop, List.length_drop]
      congr 2
      dsimp only
      omega

end Layouts

/-- The digits of the shortest numeral of a rank, without the zeros at their end. -/
def significant (rank : Nat) : List Char :=
  ((Nat.toDigits 10 (shortest rank).digits).reverse.dropWhile (· == '0')).reverse

section Significant

variable {layout : Layout} {rank : Nat}

theorem magnitude_eq_arrange (hr : 0 < rank) :
    layout.magnitude rank = layout.arrange (significant rank)
      ((Nat.toDigits 10 (shortest rank).digits).length + (shortest rank).exponent) :=
  if_neg hr.ne'

theorem exists_significant_append (rank : Nat) :
    ∃ k, Nat.toDigits 10 (shortest rank).digits = significant rank ++ zeros k := by
  rw [significant]
  generalize Nat.toDigits 10 (shortest rank).digits = s
  have hzeros : s.reverse.takeWhile (· == '0') = zeros (s.reverse.takeWhile (· == '0')).length := by
    rw [zeros, List.eq_replicate_iff]
    exact ⟨rfl, fun c hc => beq_iff_eq.mp (List.mem_takeWhile_imp (p := (· == '0')) hc)⟩
  have hsplit : s.reverse.takeWhile (· == '0') ++ s.reverse.dropWhile (· == '0') = s.reverse :=
    List.takeWhile_append_dropWhile
  rw [hzeros] at hsplit
  have hreverse := congrArg List.reverse hsplit
  rw [List.reverse_append, List.reverse_reverse, zeros, List.reverse_replicate] at hreverse
  exact ⟨_, hreverse.symm⟩

theorem isDigit_significant : ∀ d ∈ significant rank, d.isDigit := by
  obtain ⟨k, hk⟩ := exists_significant_append rank
  intro d hd
  have hmem : d ∈ Nat.toDigits 10 (shortest rank).digits := hk ▸ List.mem_append_left _ hd
  exact isDigit_of_mem_toDigits d hmem

theorem significant_value :
    (⟨Nat.ofDigitChars 10 (significant rank) 0,
      (Nat.toDigits 10 (shortest rank).digits).length + (shortest rank).exponent -
        (significant rank).length⟩ : Decimal).value = (shortest rank).value := by
  obtain ⟨k, hk⟩ := exists_significant_append rank
  have hdigits : (shortest rank).digits = Nat.ofDigitChars 10 (significant rank) 0 * 10 ^ k := by
    rw [← ofDigitChars_append_zeros, ← hk, Nat.ofDigitChars_ten_toDigits]
  have hexponent : ((significant rank).length + k : Nat) + (shortest rank).exponent -
      (significant rank).length = (shortest rank).exponent + k := by omega
  rw [hk, List.length_append, zeros, List.length_replicate, hexponent, ← Decimal.value_mul_pow,
    ← hdigits]

theorem RoundsTo.digits_pos {d : Decimal} (h : RoundsTo d.value rank) (hr : 0 < rank) :
    0 < d.digits := by
  rw [Nat.pos_iff_ne_zero]
  intro hzero
  have hlow := h.low
  rw [Decimal.value, hzero, Nat.cast_zero, zero_mul, zero_mul, Nat.cast_nonpos] at hlow
  have hlt : unitsAt 0 < unitsAt rank := unitsAt_strictMono hr
  omega

theorem significant_ne_nil (hr : 0 < rank) : significant rank ≠ [] := by
  obtain ⟨k, hk⟩ := exists_significant_append rank
  have hpos : 0 < (shortest rank).digits := (shortest_roundsTo hr).digits_pos hr
  intro hnil
  rw [hnil] at hk
  have hzero : Nat.ofDigitChars 10 (Nat.toDigits 10 (shortest rank).digits) 0 = 0 := by
    rw [hk, ofDigitChars_append_zeros, Nat.ofDigitChars_nil, Nat.zero_mul]
  rw [Nat.ofDigitChars_ten_toDigits] at hzero
  omega

theorem isPointed_zero : IsPointed (zeros 1) (zeros 1) where
  nonempty := List.cons_ne_nil _ _
  isDigit := by
    rw [List.forall_mem_append]
    exact ⟨isDigit_zeros, isDigit_zeros⟩

theorem magnitude_zero (layout : Layout) : layout.magnitude 0 = zeros 1 ++ '.' :: zeros 1 := rfl

theorem written_magnitude_roundsTo (layout : Layout) (rank : Nat) :
    RoundsTo (written (layout.magnitude rank)).value rank := by
  rcases Nat.eq_zero_or_pos rank with rfl | hr
  · have hvalue : (written (layout.magnitude 0)).value = 0 := by
      rw [magnitude_zero, written_of_not_mem (isPointed_zero.not_mem rfl (by decide)),
        isPointed_zero.mantissa_eq]
      exact zero_mul _
    rw [hvalue]
    exact roundsTo_zero
  · rw [magnitude_eq_arrange hr, written_arrange isDigit_significant (significant_ne_nil hr),
      significant_value]
    exact shortest_roundsTo hr

/-- A magnitude is a word that begins with a digit and has a point or an exponent letter. -/
structure IsNumeral (s : List Char) : Prop where
  head : ∃ c rest, s = c :: rest ∧ c.isDigit
  chars : ∀ c ∈ s, isWordChar c
  mark : '.' ∈ s ∨ 'e' ∈ s

theorem isWordChar_of_isDigit {c : Char} (h : c.isDigit) : isWordChar c := by
  simp only [Json.Token.isWordChar, Char.isAlphanum, h, Bool.or_true, Bool.true_or]

theorem forall_isWordChar (hd : ∀ d ∈ digits, d.isDigit) : ∀ c ∈ digits, isWordChar c :=
  fun c hc => isWordChar_of_isDigit (hd c hc)

theorem IsPointed.isNumeral {whole fraction : List Char} (h : IsPointed whole fraction) :
    IsNumeral (whole ++ '.' :: fraction) := by
  obtain ⟨c, more, hwhole⟩ := List.exists_cons_of_ne_nil h.nonempty
  have hc : c ∈ whole ++ fraction := by
    rw [hwhole]
    exact List.mem_cons_self
  have hword := forall_isWordChar h.isDigit
  rw [List.forall_mem_append] at hword
  constructor
  · exact ⟨c, _, congrArg (· ++ '.' :: fraction) hwhole, h.isDigit c hc⟩
  · rw [List.forall_mem_append, List.forall_mem_cons]
    exact ⟨hword.1, rfl, hword.2⟩
  · exact .inl (List.mem_append_right _ List.mem_cons_self)

theorem isNumeral_exponent {front : List Char} {k : Nat} {e : Int}
    (hhead : ∃ c rest, front = c :: rest ∧ c.isDigit) (hchars : ∀ c ∈ front, isWordChar c) :
    IsNumeral (front ++ 'e' :: (if e < 0 then '-' else '+') ::
      (zeros k ++ Nat.toDigits 10 e.natAbs)) := by
  obtain ⟨c, more, hfront, hc⟩ := hhead
  have hsign : isWordChar (if e < 0 then '-' else '+') := by
    split
    · rfl
    · rfl
  constructor
  · exact ⟨c, _, congrArg (· ++ _) hfront, hc⟩
  · rw [List.forall_mem_append, List.forall_mem_cons, List.forall_mem_cons, List.forall_mem_append]
    exact ⟨hchars, rfl, hsign, forall_isWordChar isDigit_zeros,
      forall_isWordChar isDigit_of_mem_toDigits⟩
  · exact .inr (List.mem_append_right _ List.mem_cons_self)

theorem isNumeral_arrange {point : Int} (hd : ∀ d ∈ digits, d.isDigit) (hne : digits ≠ []) :
    IsNumeral (layout.arrange digits point) := by
  by_cases h : layout.leastPositional ≤ point - 1 ∧ point - 1 < layout.positionalEnd
  · obtain ⟨whole, fraction, k, heq, hpointed, -, -⟩ := arrange_positional hd hne h
    rw [heq]
    exact hpointed.isNumeral
  · obtain ⟨front, k, heq, ⟨rfl, -⟩ | ⟨rfl, hpointed⟩⟩ := arrange_scientific hd hne h
    · obtain ⟨c, more, rfl⟩ := List.exists_cons_of_ne_nil hne
      rw [heq]
      exact isNumeral_exponent ⟨c, more, rfl, hd c List.mem_cons_self⟩ (forall_isWordChar hd)
    · rw [heq]
      exact isNumeral_exponent hpointed.isNumeral.head hpointed.isNumeral.chars

end Significant

theorem magnitude_inj {layout : Layout} {rank other : Nat}
    (h : layout.magnitude rank = layout.magnitude other) : rank = other := by
  have hrank := written_magnitude_roundsTo layout rank
  rw [h] at hrank
  exact hrank.unique (written_magnitude_roundsTo layout other)

theorem isNumeral_magnitude (layout : Layout) (rank : Nat) : IsNumeral (layout.magnitude rank) := by
  rcases Nat.eq_zero_or_pos rank with rfl | hr
  · rw [magnitude_zero]
    exact isPointed_zero.isNumeral
  · rw [magnitude_eq_arrange hr]
    exact isNumeral_arrange isDigit_significant (significant_ne_nil hr)

theorem toList_text_finite (negative : Bool) (rank : Fin rankLimit) :
    (finite negative rank).text.toList =
      (if negative then ['-'] else []) ++ plainLayout.magnitude rank := by
  cases negative with
  | true => simp [text, Layout.text]
  | false => simp [text, Layout.text]

theorem IsNumeral.ne_minus_cons {s rest : List Char} (h : IsNumeral s) : s ≠ '-' :: rest := by
  obtain ⟨c, more, rfl, hc⟩ := h.head
  intro heq
  rw [(List.cons.inj heq).1] at hc
  cases hc

/-- Finite doubles of one text are equal, down to the sign of zero. -/
theorem text_inj {x y : Double} (hx : x.isFinite) (hy : y.isFinite) (h : x.text = y.text) :
    x = y := by
  cases x with
  | infinity _ | nan => cases hx
  | finite negative rank =>
    cases y with
    | infinity _ | nan => cases hy
    | finite negative' rank' =>
      have hchars := congrArg String.toList h
      rw [toList_text_finite, toList_text_finite] at hchars
      obtain ⟨hsign, hmagnitude⟩ := signed_append_inj
        (fun _ => (isNumeral_magnitude plainLayout rank).ne_minus_cons)
        (fun _ => (isNumeral_magnitude plainLayout rank').ne_minus_cons) hchars
      rw [Bool.eq_iff_iff.mpr hsign, Fin.ext (magnitude_inj hmagnitude)]

theorem isWordChar_of_mem_text {x : Double} {c : Char} (hx : x.isFinite) (hc : c ∈ x.text.toList) :
    isWordChar c := by
  cases x with
  | infinity _ | nan => cases hx
  | finite negative rank =>
    have hnumeral := isNumeral_magnitude plainLayout rank
    rw [toList_text_finite, List.mem_append] at hc
    rcases hc with hsign | hmagnitude
    · cases negative with
      | true =>
        rw [List.mem_singleton.mp hsign]
        rfl
      | false => cases hsign
    · exact hnumeral.chars c hmagnitude

theorem mark_mem_text {x : Double} (hx : x.isFinite) :
    '.' ∈ x.text.toList ∨ 'e' ∈ x.text.toList := by
  cases x with
  | infinity _ | nan => cases hx
  | finite negative rank =>
    rw [toList_text_finite, List.mem_append, List.mem_append]
    exact (isNumeral_magnitude plainLayout rank).mark.imp .inr .inr

end ReportQuery.Double
