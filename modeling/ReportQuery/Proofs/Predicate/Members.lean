import ReportQuery.Predicate.Schema
import ReportQuery.Proofs.Schema.Valid

namespace ReportQuery.Predicate

open Schema Checked Entries

variable {key : String} {members : Entries Json}

theorem partAt?_eq_map : partAt? key members = (get? key members).map check := by
  induction members with
  | nil => rfl
  | cons entry members ih =>
    obtain ⟨k, v⟩ := entry
    rw [partAt?, get?]
    split
    · rfl
    · exact ih

theorem optionalPartAt_cons {k : String} {v : Json} :
    optionalPartAt key ((k, v) :: members) =
      if k = key then (nullable check v).within (.key key) else optionalPartAt key members := by
  cases v <;> rfl

theorem optionalPartAt_eq_optional :
    optionalPartAt key members = optional key none (nullable check) members := by
  induction members with
  | nil => rfl
  | cons entry members ih =>
    obtain ⟨k, v⟩ := entry
    rw [Schema.optional] at ih ⊢
    rw [optionalPartAt_cons, get?]
    split
    · rfl
    · exact ih

theorem partsFrom_eq_itemsFrom (i : Nat) (items : List Json) :
    partsFrom i items = itemsFrom check i items := by
  induction items generalizing i with
  | nil => rw [partsFrom, itemsFrom]
  | cons item items ih => rw [partsFrom, itemsFrom, ih]

theorem parts_eq_listOf (v : Json) : parts v = listOf check v := by
  cases v with
  | arr items => exact partsFrom_eq_itemsFrom 0 items
  | _ => rfl

theorem partsAt_eq_optional : partsAt key members = optional key [] (listOf check) members := by
  induction members with
  | nil => rfl
  | cons entry members ih =>
    obtain ⟨k, v⟩ := entry
    rw [Schema.optional] at ih ⊢
    rw [partsAt, get?]
    split
    · rw [parts_eq_listOf]
    · exact ih

theorem partsAt_eq_valid_iff {parts : List Predicate} :
    partsAt key members = valid parts ↔
      ∃ items, memberOr key (.arr []) members = .arr items ∧
        List.Forall₂ (fun v p => check v = valid p) items parts := by
  rw [partsAt_eq_optional, optional_listOf_eq_valid_iff]

theorem optionalPartAt_eq_none_iff :
    optionalPartAt key members = valid none ↔ memberOr key .null members = .null := by
  rw [optionalPartAt_eq_optional, optional_nullable_eq_none_iff]

theorem optionalPartAt_eq_some_iff {p : Predicate} :
    optionalPartAt key members = valid (some p) ↔
      ∃ v, get? key members = some v ∧ check v = valid p := by
  rw [optionalPartAt_eq_optional, optional_nullable_eq_some_iff]
  constructor
  · intro h
    obtain ⟨v, hv, -, hp⟩ := h
    exact ⟨v, hv, hp⟩
  · intro h
    obtain ⟨v, hv, hp⟩ := h
    have hne : v ≠ .null := by
      rintro rfl
      cases hp
    exact ⟨v, hv, hne, hp⟩

end ReportQuery.Predicate
