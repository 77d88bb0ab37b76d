import ReportQuery.Text.Quoted

namespace ReportQuery

structure UnknownName where
  name : String
  type : String
  deriving DecidableEq

def UnknownName.message (e : UnknownName) : String :=
  Text.quoted e.name ++ " is not a valid " ++ e.type

inductive ColumnKind where
  | dimension
  | metric
  deriving DecidableEq

namespace ColumnKind

def all : List ColumnKind := [dimension, metric]

def name : ColumnKind → String
  | dimension => "dimension"
  | metric => "metric"

/-- What the name of every column of the kind begins with. -/
def mark : ColumnKind → String
  | dimension => "dimension_"
  | metric => "metric_"

def ofName (name : String) : Except UnknownName ColumnKind :=
  match all.find? fun kind => kind.name = name with
  | some kind => .ok kind
  | none => .error ⟨name, "ColumnKind"⟩

end ColumnKind

/-- What follows `front` in a text that begins with it. -/
def afterFront? : (front s : List Char) → Option (List Char)
  | [], s => some s
  | _ :: _, [] => none
  | f :: front, c :: s => if f = c then afterFront? front s else none

theorem afterFront?_eq_some_iff {front s rest : List Char} :
    afterFront? front s = some rest ↔ s = front ++ rest := by
  induction front generalizing s with
  | nil => simp [afterFront?]
  | cons f front ih =>
    cases s with
    | nil => simp [afterFront?]
    | cons c s =>
      by_cases h : f = c
      · simp [afterFront?, h, ih]
      · simp [afterFront?, h, Ne.symm h]

structure ColumnRef where
  column : String
  base : String
  kind : ColumnKind
  deriving DecidableEq

def ColumnRef.ofName? (column : String) : Option ColumnRef :=
  ColumnKind.all.findSome? fun kind =>
    (afterFront? kind.mark.toList column.toList).map fun base =>
      ⟨column, String.ofList base, kind⟩

theorem ColumnKind.mark_append_inj {kind other : ColumnKind} {x y : String} :
    kind.mark ++ x = other.mark ++ y ↔ kind = other ∧ x = y := by
  constructor
  · intro h
    have hl := congrArg String.toList h
    cases kind <;> cases other <;> simp [mark, String.toList_inj] at hl ⊢
    · exact hl
    · exact hl
  · intro h
    obtain ⟨rfl, rfl⟩ := h
    rfl

@[simp]
theorem dimension_append_ne {x y : String} : "dimension_" ++ x ≠ "metric_" ++ y := by
  intro h
  have hm : ColumnKind.dimension.mark ++ x = ColumnKind.metric.mark ++ y := h
  cases (ColumnKind.mark_append_inj.mp hm).1

@[simp]
theorem metric_append_ne {x y : String} : "metric_" ++ x ≠ "dimension_" ++ y :=
  dimension_append_ne.symm

theorem afterFront?_mark_eq_some_iff {kind : ColumnKind} {column : String} {base : List Char} :
    afterFront? kind.mark.toList column.toList = some base ↔
      kind.mark ++ String.ofList base = column := by
  rw [afterFront?_eq_some_iff, ← String.toList_inj, String.toList_append, String.toList_ofList,
    eq_comm]

theorem ColumnRef.ofName?_eq_some_iff {column : String} {ref : ColumnRef} :
    ColumnRef.ofName? column = some ref ↔
      ref.column = column ∧ ref.kind.mark ++ ref.base = column := by
  constructor
  · intro h
    obtain ⟨kind, -, hk⟩ := List.exists_of_findSome?_eq_some h
    obtain ⟨base, hb, rfl⟩ := Option.map_eq_some_iff.mp hk
    exact ⟨rfl, afterFront?_mark_eq_some_iff.mp hb⟩
  · obtain ⟨name, base, kind⟩ := ref
    intro h
    obtain ⟨rfl, hb⟩ := h
    change kind.mark ++ base = name at hb
    have hk : afterFront? kind.mark.toList name.toList = some base.toList := by
      rw [afterFront?_mark_eq_some_iff, String.ofList_toList]
      exact hb
    cases kind with
    | dimension => simp [ofName?, ColumnKind.all, hk]
    | metric =>
      have hd : afterFront? ColumnKind.dimension.mark.toList name.toList = none := by
        rw [Option.eq_none_iff_forall_ne_some]
        intro other ho
        rw [afterFront?_mark_eq_some_iff, ← hb, ColumnKind.mark_append_inj] at ho
        cases ho.1
      simp [ofName?, ColumnKind.all, hk, hd]

end ReportQuery
