import ReportQuery.Text.Terminal

namespace ReportQuery.Text

/-- Whether no control sequence starts anywhere in a text. -/
def IsPlain (s : List Char) : Prop := ∀ rest, rest <:+ s → controlSequence? rest = none

section Characters

variable {c : Char} {s rest : List Char}

theorem isPlain_cons_iff : IsPlain (c :: s) ↔ controlSequence? (c :: s) = none ∧ IsPlain s := by
  constructor
  · intro h
    exact ⟨h _ List.suffix_rfl, fun rest hrest => h rest (hrest.trans (List.suffix_cons c s))⟩
  · rintro ⟨hfirst, hrest⟩ rest hsuffix
    rcases List.suffix_cons_iff.mp hsuffix with rfl | hsuffix
    · exact hfirst
    · exact hrest rest hsuffix

theorem length_dropControls_le (skip : Nat) (s : List Char) :
    (dropControls skip s).length ≤ s.length := by
  induction s generalizing skip with
  | nil => exact Nat.le_refl 0
  | cons c s ih =>
    simp only [dropControls]
    split
    · exact Nat.le_succ_of_le (ih _)
    · exact Nat.le_succ_of_le (ih _)
    · exact Nat.succ_le_succ (ih 0)

theorem dropControls_eq_self_iff : dropControls 0 s = s ↔ IsPlain s := by
  induction s with
  | nil =>
    apply iff_of_true rfl
    intro rest hrest
    rw [List.suffix_nil.mp hrest]
    rfl
  | cons c s ih =>
    rw [isPlain_cons_iff, ← ih]
    cases hcontrol : controlSequence? (c :: s) with
    | none => simp [dropControls, hcontrol]
    | some length =>
      -- A sequence that is dropped makes the text shorter.
      have hle := length_dropControls_le (length - 1) s
      simp only [dropControls, hcontrol]
      apply iff_of_false
      · intro heq
        rw [heq] at hle
        exact Nat.not_succ_le_self _ hle
      · rintro ⟨hnone, -⟩
        cases hnone

theorem dropControls_append (h : '\x1b' ∉ s) :
    dropControls 0 (s ++ rest) = s ++ dropControls 0 rest := by
  induction s with
  | nil => rfl
  | cons c s ih =>
    rw [List.mem_cons, not_or] at h
    simp only [List.cons_append, dropControls, controlSequence?_of_ne (Ne.symm h.1), ih h.2]

end Characters

section Strings

variable {s front : String}

theorem withoutControls_eq_self_iff : withoutControls s = s ↔ IsPlain s.toList := by
  rw [← dropControls_eq_self_iff, ← String.toList_inj, withoutControls, String.toList_ofList]

theorem withoutControls_of_not_mem (h : '\x1b' ∉ s.toList) : withoutControls s = s := by
  rw [withoutControls, dropControls_of_not_mem h, String.ofList_toList]

theorem withoutControls_append (h : '\x1b' ∉ front.toList) :
    withoutControls (front ++ s) = front ++ withoutControls s := by
  rw [← String.toList_inj, withoutControls, withoutControls, String.toList_ofList,
    String.toList_append, String.toList_append, String.toList_ofList, dropControls_append h]

end Strings

end ReportQuery.Text
