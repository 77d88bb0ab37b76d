import Mathlib.Data.List.Forall2

namespace ReportQuery

variable {α β : Type} {R S : α → β → Prop} {list : List α} {values : List β}

theorem exists_forall₂_iff :
    (∃ values, List.Forall₂ R list values) ↔ ∀ a ∈ list, ∃ b, R a b := by
  induction list with
  | nil => exact iff_of_true ⟨[], .nil⟩ nofun
  | cons a list ih =>
    rw [List.forall_mem_cons, ← ih]
    constructor
    · intro h
      obtain ⟨_, h⟩ := h
      cases h with
      | cons hb hvalues => exact ⟨⟨_, hb⟩, ⟨_, hvalues⟩⟩
    · intro h
      obtain ⟨⟨b, hb⟩, ⟨values, hvalues⟩⟩ := h
      exact ⟨b :: values, .cons hb hvalues⟩

theorem forall₂_of_mem (h : List.Forall₂ R list values)
    (himp : ∀ b ∈ values, ∀ a, R a b → S a b) : List.Forall₂ S list values := by
  induction h with
  | nil => exact .nil
  | cons hb hvalues ih =>
    rw [List.forall_mem_cons] at himp
    exact .cons (himp.1 _ hb) (ih himp.2)

/-- A relation by which a value is computed on either side holds of lists whose values agree. -/
theorem forall₂_iff_map_eq {γ : Type} {f : α → γ} {g : β → γ} (h : ∀ a b, R a b ↔ f a = g b) :
    List.Forall₂ R list values ↔ list.map f = values.map g := by
  have hrule : R = fun a b => f a = g b := by
    funext a b
    exact propext (h a b)
  rw [hrule, ← List.forall₂_eq_eq_eq, List.forall₂_map_left_iff, List.forall₂_map_right_iff]

end ReportQuery
