import ReportQuery.Proofs.Json.Literal
import ReportQuery.Proofs.Text.Blank

namespace ReportQuery.Double

/-- The digits of an integer, with the minus sign that it has or a plus sign that it may have. -/
inductive IntegerNumeral (n : Int) : List Char → Prop where
  | plain : IntegerNumeral n (toString n).toList
  | plus : 0 ≤ n → IntegerNumeral n ('+' :: (toString n).toList)

/-- The words for what is not a finite number, in letters of either case. -/
def IsNonfiniteWord (s : List Char) : Prop :=
  String.ofList (s.map Char.toLower) ∈ ["inf", "infinity", "nan"]

inductive NonfiniteNumeral : List Char → Prop where
  | plain {s : List Char} : IsNonfiniteWord s → NonfiniteNumeral s
  | signed {c : Char} {s : List Char} :
    c = '-' ∨ c = '+' → IsNonfiniteWord s → NonfiniteNumeral (c :: s)

section Digits

variable {digits : List Char}

theorem digitRun_of_isDigit (hd : ∀ d ∈ digits, d.isDigit) (afterDigit : Bool) :
    digitRun Text.digitValue? afterDigit digits =
      (digits.map fun c => c.toNat - '0'.toNat, []) := by
  induction digits generalizing afterDigit with
  | nil => rfl
  | cons d digits ih =>
    have hd' := List.forall_mem_cons.mp hd
    simp only [digitRun, Text.digitValue?_of_isDigit hd'.1, ih hd'.2]
    rfl

theorem ofDigits_map :
    ofDigits (digits.map fun c => c.toNat - '0'.toNat) = Nat.ofDigitChars 10 digits 0 := by
  rw [ofDigits, List.foldl_map, Nat.ofDigitChars_eq_foldl]
  simp only [Nat.mul_comm]

theorem ofDecimal_zero (negative : Bool) (n : Nat) :
    ofDecimal negative n 0 = ofRank negative (nearestRank n 1) := by
  simp only [ofDecimal]
  split
  · next h => rw [h, nearestRank_zero]
  · rw [if_neg (Nat.not_lt_zero 400), Nat.pow_eq, Nat.pow_zero, Nat.mul_one]

theorem unsigned?_of_isDigit (negative : Bool) (hd : ∀ d ∈ digits, d.isDigit)
    (hne : digits ≠ []) :
    unsigned? (digitRun Text.digitValue? false) negative digits =
      some (ofRank negative (nearestRank (Nat.ofDigitChars 10 digits 0) 1)) := by
  simp only [unsigned?, digitRun_of_isDigit hd, List.append_nil]
  split
  · next h => exact absurd (List.map_eq_nil_iff.mp h) hne
  · simp only [exponentPart?, ofDigits_map, List.length_nil, Option.map_some]
    exact congrArg some (ofDecimal_zero negative _)

end Digits

section Signs

variable {c : Char} {s digits : List Char} {negative : Bool}

theorem sign_of_ne (hminus : c ≠ '-') (hplus : c ≠ '+') : sign (c :: s) = (false, c :: s) := by
  simp only [sign]
  split
  · next heq => exact absurd (List.cons.inj heq).1 hminus
  · next heq => exact absurd (List.cons.inj heq).1 hplus
  · rfl

theorem toLower_of_not_upper (h : ¬ ('A'.val ≤ c.val ∧ c.val ≤ 'Z'.val)) : c.toLower = c :=
  dif_neg h

theorem toLower_of_isDigit (h : c.isDigit) : c.toLower = c := by
  have hhigh : c.toNat ≤ '9'.toNat := (Char.isDigit_iff_toNat.mp h).2
  apply toLower_of_not_upper
  intro hupper
  exact absurd (Nat.le_trans (UInt32.le_iff_toNat_le.mp hupper.1) hhigh) (by decide)

theorem ofList_toLower_of_isDigit (hd : ∀ d ∈ digits, d.isDigit) :
    String.ofList (digits.map Char.toLower) = String.ofList digits := by
  congr 1
  calc digits.map Char.toLower = digits.map id :=
        List.map_congr_left fun d hdigit => toLower_of_isDigit (hd d hdigit)
    _ = digits := List.map_id digits

theorem ofChars?_of_isDigit (hsign : sign s = (negative, digits)) (hd : ∀ d ∈ digits, d.isDigit)
    (hne : digits ≠ []) :
    ofChars? (digitRun Text.digitValue? false) s =
      some (ofRank negative (nearestRank (Nat.ofDigitChars 10 digits 0) 1)) := by
  have hword (word : String) (c : Char) (hc : c ∈ word.toList) (hdigit : c.isDigit = false) :
      String.ofList digits ≠ word := by
    rintro rfl
    rw [String.toList_ofList] at hc
    exact not_mem_of_isDigit hd hdigit hc
  simp only [ofChars?, hsign, ofList_toLower_of_isDigit hd]
  split
  · next heq => exact absurd heq (hword _ 'n' (by decide) rfl)
  · next heq => exact absurd heq (hword _ 'n' (by decide) rfl)
  · next heq => exact absurd heq (hword _ 'n' (by decide) rfl)
  · exact unsigned?_of_isDigit negative hd hne

theorem sign_of_isDigit (hd : ∀ d ∈ digits, d.isDigit) : sign digits = (false, digits) := by
  cases digits with
  | nil => rfl
  | cons d digits =>
    apply sign_of_ne
    · rintro rfl
      cases hd '-' List.mem_cons_self
    · rintro rfl
      cases hd '+' List.mem_cons_self

end Signs

section Integers

variable {n : Int} {s : List Char}

theorem IntegerNumeral.sign_eq (h : IntegerNumeral n s) :
    sign s = (decide (n < 0), Nat.toDigits 10 n.natAbs) := by
  cases h with
  | plain =>
    rw [Json.toList_toString]
    by_cases hn : n < 0
    · rw [if_pos hn, decide_eq_true hn]
      rfl
    · rw [if_neg hn, decide_eq_false hn]
      exact sign_of_isDigit isDigit_of_mem_toDigits
  | plus hn =>
    rw [Json.toList_toString, if_neg (Int.not_lt.mpr hn), decide_eq_false (Int.not_lt.mpr hn)]
    rfl

theorem IntegerNumeral.isBlank_eq_false (h : IntegerNumeral n s) :
    ∀ c ∈ s, Text.isBlank c = false := by
  have hplain : ∀ c ∈ (toString n).toList, Text.isBlank c = false := by
    intro c hc
    rcases Json.mem_toString hc with rfl | hdigit
    · rfl
    · exact Text.isBlank_of_isDigit hdigit
  cases h with
  | plain => exact hplain
  | plus => exact List.forall_mem_cons.mpr ⟨rfl, hplain⟩

end Integers

/-- Every text of an integer is read as the double of the integer. -/
theorem ofFreeText?_of_numeral {n : Int} {s : String}
    (h : Text.Padded (IntegerNumeral n) s.toList) : ofFreeText? s = some (ofInt n) := by
  have htrim := h.trim fun _ => IntegerNumeral.isBlank_eq_false
  rw [ofFreeText?, ofChars?_of_isDigit htrim.sign_eq isDigit_of_mem_toDigits
    Nat.toDigits_ne_nil, Nat.ofDigitChars_ten_toDigits]
  rfl

section Words

variable {c : Char} {s : List Char}

theorem isAlpha_of_toLower (h : c.toLower.isAlpha) : c.isAlpha := by
  by_cases hupper : 'A'.val ≤ c.val ∧ c.val ≤ 'Z'.val
  · exact Bool.or_eq_true_iff.mpr (.inl (decide_eq_true hupper))
  · rwa [toLower_of_not_upper hupper] at h

theorem IsNonfiniteWord.isAlpha (h : IsNonfiniteWord s) : ∀ c ∈ s, c.isAlpha := by
  have hwords : ["inf", "infinity", "nan"].all (fun word => word.toList.all Char.isAlpha) := rfl
  have hletters := List.all_eq_true.mp (List.all_eq_true.mp hwords _ h)
  intro c hc
  apply isAlpha_of_toLower
  apply hletters
  rw [String.toList_ofList]
  exact List.mem_map_of_mem hc

theorem IsNonfiniteWord.sign_eq (h : IsNonfiniteWord s) : sign s = (false, s) := by
  cases s with
  | nil => rfl
  | cons c s =>
    apply sign_of_ne
    · rintro rfl
      cases h.isAlpha '-' List.mem_cons_self
    · rintro rfl
      cases h.isAlpha '+' List.mem_cons_self

theorem NonfiniteNumeral.sign_eq (h : NonfiniteNumeral s) :
    ∃ negative word, sign s = (negative, word) ∧ IsNonfiniteWord word := by
  cases h with
  | plain hw => exact ⟨_, _, hw.sign_eq, hw⟩
  | signed hc hw => rcases hc with rfl | rfl <;> exact ⟨_, _, rfl, hw⟩

theorem NonfiniteNumeral.isBlank_eq_false (h : NonfiniteNumeral s) :
    ∀ c ∈ s, Text.isBlank c = false := by
  have hword {word : List Char} (hw : IsNonfiniteWord word) :
      ∀ c ∈ word, Text.isBlank c = false :=
    fun c hc => Text.isBlank_of_isAlpha (hw.isAlpha c hc)
  cases h with
  | plain hw => exact hword hw
  | signed hc hw =>
    rw [List.forall_mem_cons]
    apply And.intro
    · rcases hc with rfl | rfl <;> rfl
    · exact hword hw

end Words

theorem ofFreeText?_of_word {s : String} (h : Text.Padded NonfiniteNumeral s.toList) :
    ∃ x, ofFreeText? s = some x ∧ x.isFinite = false := by
  have htrim := h.trim fun _ => NonfiniteNumeral.isBlank_eq_false
  obtain ⟨negative, word, hsign, hw⟩ := htrim.sign_eq
  simp only [IsNonfiniteWord, List.mem_cons, List.not_mem_nil, or_false] at hw
  simp only [ofFreeText?, ofChars?, hsign]
  rcases hw with hw | hw | hw
  all_goals rw [hw]; exact ⟨_, rfl, rfl⟩

end ReportQuery.Double
