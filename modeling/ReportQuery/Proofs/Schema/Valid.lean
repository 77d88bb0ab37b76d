import Mathlib.Data.List.Forall2
import ReportQuery.Schema.Checked

namespace ReportQuery

/-- What an object holds under a key, or else what stands for it where it is absent. -/
def memberOr (key : String) (default : Json) (members : Entries Json) : Json :=
  (Entries.get? key members).getD default

namespace Schema

open Checked Entries

variable {α : Type} {check : Json → Checked α} {members : Entries Json} {key : String} {v : Json}
  {a : α}

theorem text_eq_valid_iff {s : String} : text v = valid s ↔ v = .str s := by
  cases v with
  | str t => simp [text]
  | _ => simp [text, fault]

theorem mapping_eq_valid_iff {m : Entries Json} : mapping v = valid m ↔ v = .obj m := by
  cases v with
  | obj n => simp [mapping]
  | _ => simp [mapping, fault]

theorem nullable_eq_none_iff : nullable check v = valid none ↔ v = .null := by
  cases v with
  | null => simp [nullable]
  | _ => simp [nullable, map_eq_valid_iff]

theorem nullable_eq_some_iff :
    nullable check v = valid (some a) ↔ v ≠ .null ∧ check v = valid a := by
  cases v with
  | null => simp [nullable]
  | _ => simp [nullable, map_eq_valid_iff]

theorem itemsFrom_eq_valid_iff {i : Nat} {items : List Json} {values : List α} :
    itemsFrom check i items = valid values ↔
      List.Forall₂ (fun item a => check item = valid a) items values := by
  induction items generalizing i values with
  | nil => cases values <;> simp [itemsFrom]
  | cons item items ih =>
    simp only [itemsFrom, seq_eq_valid_iff, map_eq_valid_iff, within_eq_valid_iff, ih]
    constructor
    · intro h
      obtain ⟨_, rest, ⟨a, ha, rfl⟩, hrest, rfl⟩ := h
      exact .cons ha hrest
    · intro h
      cases h with
      | cons ha hrest => exact ⟨_, _, ⟨_, ha, rfl⟩, hrest, rfl⟩

theorem listOf_eq_valid_iff {values : List α} :
    listOf check v = valid values ↔
      ∃ items, v = .arr items ∧ List.Forall₂ (fun item a => check item = valid a) items values := by
  cases v with
  | arr items => simp [listOf, itemsFrom_eq_valid_iff]
  | _ => simp [listOf, fault]

section Members

theorem required_eq_valid_iff :
    required key check members = valid a ↔ ∃ v, get? key members = some v ∧ check v = valid a := by
  rw [required]
  cases get? key members with
  | none => simp [fault, within]
  | some v => simp

theorem required_text_eq_valid_iff {s : String} :
    required key text members = valid s ↔ get? key members = some (.str s) := by
  simp only [required_eq_valid_iff, text_eq_valid_iff]
  constructor
  · intro h
    obtain ⟨_, hv, rfl⟩ := h
    exact hv
  · intro h
    exact ⟨_, h, rfl⟩

theorem optional_eq_valid_iff {default : α} {written : Json} (h : check written = valid default) :
    optional key default check members = valid a ↔
      check (memberOr key written members) = valid a := by
  rw [Schema.optional, memberOr]
  cases get? key members with
  | none => simp [h]
  | some v => simp

theorem optional_anything_eq_valid_iff {default : Json} :
    optional key default anything members = valid v ↔ memberOr key default members = v := by
  have hdefault : anything default = valid default := rfl
  rw [optional_eq_valid_iff hdefault, anything, valid.injEq]

theorem optional_text_eq_valid_iff {default s : String} :
    optional key default text members = valid s ↔ memberOr key (.str default) members = .str s := by
  have hdefault : text (.str default) = valid default := rfl
  rw [optional_eq_valid_iff hdefault, text_eq_valid_iff]

theorem optional_mapping_eq_valid_iff {m : Entries Json} :
    optional key [] mapping members = valid m ↔ memberOr key (.obj []) members = .obj m := by
  have hempty : mapping (.obj []) = valid [] := rfl
  rw [optional_eq_valid_iff hempty, mapping_eq_valid_iff]

theorem optional_listOf_eq_valid_iff {values : List α} :
    optional key [] (listOf check) members = valid values ↔
      ∃ items, memberOr key (.arr []) members = .arr items ∧
        List.Forall₂ (fun item a => check item = valid a) items values := by
  have hempty : listOf check (.arr []) = valid [] := rfl
  rw [optional_eq_valid_iff hempty, listOf_eq_valid_iff]

theorem optional_nullable_eq_none_iff :
    optional key none (nullable check) members = valid none ↔
      memberOr key .null members = .null := by
  have hnull : nullable check .null = valid none := rfl
  rw [optional_eq_valid_iff hnull, nullable_eq_none_iff]

theorem optional_nullable_eq_some_iff :
    optional key none (nullable check) members = valid (some a) ↔
      ∃ v, get? key members = some v ∧ v ≠ .null ∧ check v = valid a := by
  rw [Schema.optional]
  cases get? key members with
  | none => simp
  | some v => simp [nullable_eq_some_iff]

theorem tag_eq_valid_iff {tags : List String} {s : String} :
    tag key tags members = valid s ↔ get? key members = some (.str s) ∧ s ∈ tags := by
  rw [tag]
  cases get? key members with
  | none => simp [fault]
  | some v =>
    cases v with
    | str t =>
      by_cases ht : t ∈ tags
      · simp only [ht, if_true, valid.injEq, Option.some.injEq, Json.str.injEq]
        constructor
        · rintro rfl
          exact ⟨rfl, ht⟩
        · intro h
          exact h.1
      · simp only [ht, if_false, Option.some.injEq, Json.str.injEq]
        refine iff_of_false nofun ?_
        rintro ⟨rfl, hs⟩
        exact ht hs
    | _ => simp [fault]

end Members

end Schema

end ReportQuery
