import Mathlib.Data.List.Basic
import ReportQuery.Selection

namespace ReportQuery

/-- The names of the fields whose columns have the mark of a kind. -/
def fieldNames (kind : ColumnKind) (fields : Entries String) : List String :=
  (fields.filter fun field => kind.mark.toList.isPrefixOf field.2.toList).map Prod.fst

theorem isPrefixOf_mark_iff {kind : ColumnKind} {column : String} :
    kind.mark.toList.isPrefixOf column.toList ↔ ∃ base, kind.mark ++ base = column := by
  rw [List.isPrefixOf_iff_prefix]
  constructor
  · intro h
    obtain ⟨base, hb⟩ := h
    exact ⟨String.ofList base, by rw [← String.toList_inj, String.toList_append,
      String.toList_ofList, hb]⟩
  · intro h
    obtain ⟨base, rfl⟩ := h
    exact ⟨base.toList, String.toList_append.symm⟩

def baseOf? (kind : ColumnKind) (column : String) : Option String :=
  (ColumnRef.ofName? column).bind fun ref => if ref.kind = kind then some ref.base else none

theorem baseOf?_eq_some_iff {kind : ColumnKind} {column x : String} :
    baseOf? kind column = some x ↔ column = kind.mark ++ x := by
  rw [baseOf?, Option.bind_eq_some_iff]
  constructor
  · intro h
    obtain ⟨ref, hr, hs⟩ := h
    obtain ⟨-, hc⟩ := ColumnRef.ofName?_eq_some_iff.mp hr
    split at hs
    · next hk =>
      cases hs
      rw [← hk, hc]
    · cases hs
  · rintro rfl
    exact ⟨⟨_, x, kind⟩, ColumnRef.ofName?_eq_some_iff.mpr ⟨rfl, rfl⟩, if_pos rfl⟩

theorem baseOf?_mark_append (kind : ColumnKind) (x : String) :
    baseOf? kind (kind.mark ++ x) = some x :=
  baseOf?_eq_some_iff.mpr rfl

theorem baseOf?_eq_none_iff {kind : ColumnKind} {column : String} :
    baseOf? kind column = none ↔ ∀ x, column ≠ kind.mark ++ x := by
  simp only [Option.eq_none_iff_forall_ne_some, ne_eq, baseOf?_eq_some_iff]

namespace Selection

def split (fields : Entries String) : Selection :=
  ⟨fieldsOf .dimension fields, fieldsOf .metric fields⟩

variable {kind : ColumnKind} {fields : Entries String} {field base : String}

theorem fieldsOf_eq_filterMap : fieldsOf kind fields =
    fields.filterMap fun field => (baseOf? kind field.2).map (Prod.mk field.1) := by
  apply List.filterMap_congr
  intro field _
  rw [baseOf?, Option.map_bind]
  apply Option.bind_congr
  intro ref _
  rw [Function.comp_apply]
  split
  · rfl
  · rfl

theorem mem_fieldsOf :
    (field, base) ∈ fieldsOf kind fields ↔ (field, kind.mark ++ base) ∈ fields := by
  rw [fieldsOf_eq_filterMap, List.mem_filterMap]
  constructor
  · intro h
    obtain ⟨⟨name, column⟩, hm, hf⟩ := h
    obtain ⟨x, hx, he⟩ := Option.map_eq_some_iff.mp hf
    cases he
    rwa [← baseOf?_eq_some_iff.mp hx]
  · intro h
    exact ⟨_, h, by rw [baseOf?_mark_append, Option.map_some]⟩

theorem keys_fieldsOf : (fieldsOf kind fields).keys = fieldNames kind fields := by
  rw [fieldsOf_eq_filterMap]
  induction fields with
  | nil => rfl
  | cons entry fields ih =>
    obtain ⟨name, column⟩ := entry
    simp only [Entries.keys, fieldNames] at ih ⊢
    cases hb : baseOf? kind column with
    | some x =>
      have hp := isPrefixOf_mark_iff.mpr ⟨x, (baseOf?_eq_some_iff.mp hb).symm⟩
      simp [hb, hp, ih]
    | none =>
      have hp : ¬ kind.mark.toList.isPrefixOf column.toList := by
        rw [isPrefixOf_mark_iff]
        rintro ⟨x, hx⟩
        exact baseOf?_eq_none_iff.mp hb x hx.symm
      simp [hb, hp, ih]

theorem defects_eq_nil_iff :
    defects fields = [] ↔ ∀ field ∈ fields, ∃ ref, ColumnRef.ofName? field.2 = some ref := by
  rw [defects, List.filterMap_eq_nil_iff]
  refine forall₂_congr fun field _ => ?_
  cases hr : ColumnRef.ofName? field.2 with
  | none => simp [hr]
  | some ref => simp [hr]

end Selection

theorem nodup_fieldNames {kind : ColumnKind} {fields : Entries String} (h : fields.keys.Nodup) :
    (fieldNames kind fields).Nodup :=
  h.sublist (List.filter_sublist.map Prod.fst)

theorem mem_fieldNames {kind : ColumnKind} {fields : Entries String} {name : String} :
    name ∈ fieldNames kind fields ↔ ∃ base, (name, kind.mark ++ base) ∈ fields := by
  rw [← Selection.keys_fieldsOf, Entries.keys, List.mem_map]
  constructor
  · intro h
    obtain ⟨⟨name, base⟩, hm, rfl⟩ := h
    exact ⟨base, Selection.mem_fieldsOf.mp hm⟩
  · intro h
    obtain ⟨base, hm⟩ := h
    exact ⟨(name, base), Selection.mem_fieldsOf.mpr hm, rfl⟩

theorem nodup_fieldNames_append {fields : Entries String} (h : fields.keys.Nodup) :
    (fieldNames .dimension fields ++ fieldNames .metric fields).Nodup := by
  rw [List.nodup_append]
  refine ⟨nodup_fieldNames h, nodup_fieldNames h, ?_⟩
  intro name hd other hm he
  subst he
  obtain ⟨x, hx⟩ := mem_fieldNames.mp hd
  obtain ⟨y, hy⟩ := mem_fieldNames.mp hm
  have hc := (Entries.get?_eq_some_of_mem h hx).symm.trans (Entries.get?_eq_some_of_mem h hy)
  cases (ColumnKind.mark_append_inj.mp (Option.some.inj hc)).1

end ReportQuery
