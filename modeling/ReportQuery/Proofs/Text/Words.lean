import Mathlib.Data.List.TakeWhile
import ReportQuery.Json.Token

namespace ReportQuery.Text

open Json.Token (isWordChar)

/-- What is in front of the first occurrence of a character, and what is after it. -/
def cutAt (mark : Char) (s : List Char) : List Char × List Char :=
  let front := s.takeWhile (· ≠ mark)
  (front, s.drop (front.length + 1))

section Marks

variable {mark : Char} {s s' rest rest' : List Char}

theorem cutAt_of_not_mem (h : mark ∉ s) : cutAt mark s = (s, []) := by
  have hfront : s.takeWhile (· ≠ mark) = s := by
    rw [List.takeWhile_eq_self_iff]
    intro c hc
    exact decide_eq_true (ne_of_mem_of_not_mem hc h)
  simp only [cutAt, hfront, List.drop_eq_nil_of_le (Nat.le_succ s.length)]

theorem cutAt_append (h : mark ∉ s) : cutAt mark (s ++ mark :: rest) = (s, rest) := by
  have hfront : (s ++ mark :: rest).takeWhile (· ≠ mark) = s := by
    rw [List.takeWhile_append_of_pos]
    · simp
    · intro c hc
      exact decide_eq_true (ne_of_mem_of_not_mem hc h)
  have hrest : (s ++ mark :: rest).drop (s.length + 1) = rest := by
    rw [← List.drop_drop, List.drop_left]
    rfl
  simp only [cutAt, hfront, hrest]

theorem append_mark_inj (hs : mark ∉ s) (hs' : mark ∉ s')
    (h : s ++ mark :: rest = s' ++ mark :: rest') : s = s' ∧ rest = rest' := by
  have hcut := congrArg (cutAt mark) h
  rw [cutAt_append hs, cutAt_append hs'] at hcut
  exact Prod.mk.inj hcut

end Marks

theorem signed_append_inj {minus minus' : Prop} [Decidable minus] [Decidable minus']
    {s s' : List Char} (hs : ∀ rest, s ≠ '-' :: rest) (hs' : ∀ rest, s' ≠ '-' :: rest)
    (h : (if minus then ['-'] else []) ++ s = (if minus' then ['-'] else []) ++ s') :
    (minus ↔ minus') ∧ s = s' := by
  by_cases hm : minus
  · rw [if_pos hm] at h
    by_cases hm' : minus'
    · rw [if_pos hm'] at h
      exact ⟨iff_of_true hm hm', (List.cons.inj h).2⟩
    · rw [if_neg hm'] at h
      exact absurd h.symm (hs' s)
  · rw [if_neg hm] at h
    by_cases hm' : minus'
    · rw [if_pos hm'] at h
      exact absurd h (hs s')
    · rw [if_neg hm'] at h
      exact ⟨iff_of_false hm hm', h⟩

/-- What may come after a literal: nothing, a blank or a closing parenthesis. -/
inductive Follows : List Char → Prop where
  | nil : Follows []
  | blank {more : List Char} : Follows (' ' :: more)
  | close {more : List Char} : Follows (')' :: more)

section Words

variable {s s' rest rest' : List Char}

theorem Follows.takeWhile_eq_nil (h : Follows rest) : rest.takeWhile isWordChar = [] := by
  cases h with
  | nil | blank | close => rfl

theorem word_append_inj (hs : ∀ c ∈ s, isWordChar c) (hs' : ∀ c ∈ s', isWordChar c)
    (hrest : Follows rest) (hrest' : Follows rest') (h : s ++ rest = s' ++ rest') :
    s = s' ∧ rest = rest' := by
  have hword := congrArg (List.takeWhile isWordChar) h
  rw [List.takeWhile_append_of_pos hs, List.takeWhile_append_of_pos hs', hrest.takeWhile_eq_nil,
    hrest'.takeWhile_eq_nil, List.append_nil, List.append_nil] at hword
  subst hword
  exact ⟨rfl, List.append_cancel_left h⟩

end Words

end ReportQuery.Text
