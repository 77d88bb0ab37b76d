import ReportQuery.Text.Blank

namespace ReportQuery.Text

/-- The texts of a form, with blanks at their ends or without. -/
inductive Padded (Form : List Char → Prop) : List Char → Prop where
  | bare {s : List Char} : Form s → Padded Form s
  | before {c : Char} {s : List Char} : isBlank c → Padded Form s → Padded Form (c :: s)
  | after {c : Char} {s : List Char} : isBlank c → Padded Form s → Padded Form (s ++ [c])

section Trimming

variable {drop : Char → Bool} {c : Char} {s : List Char}

theorem trim_cons (h : drop c) : trim drop (c :: s) = trim drop s := by
  rw [trim, List.dropWhile_cons_of_pos h]
  rfl

theorem trimEnd_concat (h : drop c) : trimEnd drop (s ++ [c]) = trimEnd drop s := by
  rw [trimEnd, List.reverse_append, List.reverse_singleton, List.singleton_append,
    List.dropWhile_cons_of_pos h]
  rfl

theorem trim_concat (h : drop c) : trim drop (s ++ [c]) = trim drop s := by
  rw [trim, List.dropWhile_append]
  split
  · next hempty =>
    rw [List.dropWhile_cons_of_pos h, trim, List.isEmpty_iff.mp hempty]
    rfl
  · exact trimEnd_concat h

theorem trim_eq_self (h : ∀ c ∈ s, drop c = false) : trim drop s = s := by
  have hdrop (s : List Char) (h : ∀ c ∈ s, drop c = false) : s.dropWhile drop = s := by
    cases s with
    | nil => rfl
    | cons c s => exact List.dropWhile_cons_of_neg (ne_true_of_eq_false (h c List.mem_cons_self))
  rw [trim, hdrop s h, trimEnd, hdrop, List.reverse_reverse]
  intro c hc
  exact h c (List.mem_reverse.mp hc)

theorem Padded.trim {Form : List Char → Prop} (h : Padded Form s)
    (hform : ∀ s, Form s → ∀ c ∈ s, isBlank c = false) : Form (trim isBlank s) := by
  induction h with
  | bare hs =>
    rw [trim_eq_self (hform _ hs)]
    exact hs
  | before hc _ ih =>
    rw [trim_cons hc]
    exact ih
  | after hc _ ih =>
    rw [trim_concat hc]
    exact ih

theorem isBlank_of_printable (hlow : 33 ≤ c.toNat) (hhigh : c.toNat ≤ 126) : isBlank c = false := by
  simp only [isBlank, isWhiteSpace, Bool.or_eq_false_iff, Bool.and_eq_false_iff,
    decide_eq_false_iff_not, beq_eq_false_iff_ne]
  omega

theorem isBlank_of_isDigit (h : c.isDigit) : isBlank c = false := by
  obtain ⟨hlow, hhigh⟩ := Char.isDigit_iff_toNat.mp h
  exact isBlank_of_printable (Nat.le_trans (by decide) hlow) (Nat.le_trans hhigh (by decide))

theorem isBlank_of_isAlpha (h : c.isAlpha) : isBlank c = false := by
  rcases Bool.or_eq_true_iff.mp h with hupper | hlower
  · obtain ⟨hlow, hhigh⟩ := of_decide_eq_true hupper
    exact isBlank_of_printable (Nat.le_trans (by decide) (UInt32.le_iff_toNat_le.mp hlow))
      (Nat.le_trans (UInt32.le_iff_toNat_le.mp hhigh) (by decide))
  · obtain ⟨hlow, hhigh⟩ := Bool.and_eq_true_iff.mp hlower
    exact isBlank_of_printable
      (Nat.le_trans (by decide) (UInt32.le_iff_toNat_le.mp (of_decide_eq_true hlow)))
      (Nat.le_trans (UInt32.le_iff_toNat_le.mp (of_decide_eq_true hhigh)) (by decide))

end Trimming

end ReportQuery.Text
