import ReportQuery.Filter
import ReportQuery.Filter.Numeric
import ReportQuery.Filter.Tree
import ReportQuery.Outcome

namespace ReportQuery

/-- The mandatory scope of a tenant: rows must have exactly `value` on `dimension`. -/
structure Scope where
  dimension : String
  value : String
  deriving DecidableEq

namespace Scope

def defaultDimension : String := "hostName"

def leaf (s : Scope) : Leaf := ⟨s.dimension, .text s.value .exact⟩

def toJson (s : Scope) : Json :=
  .obj [("dimension", .str s.dimension), ("value", .str s.value)]

end Scope

structure ReportFilters where
  dimension : Option FilterTree
  metric : Option FilterTree

def ReportFilters.toJson (f : ReportFilters) : Json :=
  .obj [("dimension_filter", .ofOption FilterTree.toJson f.dimension),
    ("metric_filter", .ofOption FilterTree.toJson f.metric)]

namespace Operator

def textMatch? : Operator → Option TextMatch
  | equal => some .exact
  | like => some .partialRegexp
  | _ => none

def numberComparison? : Operator → Option NumberComparison
  | equal => some .equal
  | greater => some .greater
  | less => some .less
  | like => none

variable {o : Operator}

theorem isSome_textMatch?_iff : o.textMatch?.isSome ↔ o.appliesTo .dimension := by
  cases o <;> exact Iff.rfl

theorem isSome_numberComparison?_iff : o.numberComparison?.isSome ↔ o.appliesTo .metric := by
  cases o <;> exact Iff.rfl

def textMatch (o : Operator) (h : o.appliesTo .dimension) : TextMatch :=
  o.textMatch?.get (isSome_textMatch?_iff.mpr h)

def numberComparison (o : Operator) (h : o.appliesTo .metric) : NumberComparison :=
  o.numberComparison?.get (isSome_numberComparison?_iff.mpr h)

theorem textMatch?_eq_some (h : o.appliesTo .dimension) : o.textMatch? = some (o.textMatch h) :=
  (Option.some_get _).symm

theorem numberComparison?_eq_some (h : o.appliesTo .metric) :
    o.numberComparison? = some (o.numberComparison h) :=
  (Option.some_get _).symm

end Operator

namespace Filter

/-- The leaf of a filter in the list of dimensions. How its operator matches is looked up only once
the operator has passed the check, so that there is an answer. -/
def dimensionLeaf (f : Filter) : Except Defect Leaf :=
  if f.kind ≠ .dimension then .error (.kindMismatch f.column f.kind .dimension)
  else match h : f.operator.mismatch? .dimension f.column with
    | some defect => .error defect
    | none =>
      match f.value with
      | .str s => .ok ⟨f.base, .text s (f.operator.textMatch (Operator.mismatch?_eq_none_iff.mp h))⟩
      | value => .error (.dimensionValue f.column value)

def metricLeaf (f : Filter) : Except ConversionError (Except Defect Leaf) :=
  if f.kind ≠ .metric then .ok (.error (.kindMismatch f.column f.kind .metric))
  else match h : f.operator.mismatch? .metric f.column with
    | some defect => .ok (.error defect)
    | none =>
      f.value.toNumber.map fun
        | some x =>
          .ok ⟨f.base, .number (f.operator.numberComparison (Operator.mismatch?_eq_none_iff.mp h)) x⟩
        | none => .error (.metricValue f.column f.value)

end Filter

def results {ε α : Type} (list : List (Except ε α)) : List α := list.filterMap Except.toOption

def failures {ε α : Type} (list : List (Except ε α)) : List ε :=
  list.filterMap fun
    | .error e => some e
    | .ok _ => none

section Results

variable {ε α : Type} {values : List α} {list more : List (Except ε α)}

@[simp]
theorem results_cons_ok {a : α} : results (.ok a :: list) = a :: results list := rfl

@[simp]
theorem results_cons_error {e : ε} : results (.error e :: list) = results list := rfl

@[simp]
theorem failures_cons_ok {a : α} : failures (.ok a :: list) = failures list := rfl

@[simp]
theorem failures_cons_error {e : ε} : failures (.error e :: list) = e :: failures list := rfl

@[simp]
theorem results_append : results (list ++ more) = results list ++ results more := by
  simp [results]

@[simp]
theorem failures_append : failures (list ++ more) = failures list ++ failures more := by
  simp [failures]

@[simp]
theorem results_map_ok : results (values.map (.ok : α → Except ε α)) = values := by
  induction values with
  | nil => rfl
  | cons value values ih => rw [List.map_cons, results_cons_ok, ih]

theorem mem_results {a : α} : a ∈ results list ↔ .ok a ∈ list := by
  induction list with
  | nil => simp [results]
  | cons head list ih =>
    cases head with
    | error e => simp [ih]
    | ok b => simp [ih]

theorem failures_eq_nil_iff : failures list = [] ↔ ∃ values : List α, list = values.map .ok := by
  constructor
  · intro h
    induction list with
    | nil => exact ⟨[], rfl⟩
    | cons head list ih =>
      cases head with
      | error e => cases h
      | ok value =>
        obtain ⟨values, rfl⟩ := ih h
        exact ⟨value :: values, rfl⟩
  · intro h
    obtain ⟨values, rfl⟩ := h
    induction values with
    | nil => rfl
    | cons value values ih => exact ih

end Results

def FilterTree.ofLeaves : List Leaf → Option FilterTree
  | [] => none
  | [l] => some (.leaf l)
  | leaves => some (.group (leaves.map .leaf))

/-- The filter trees of a report. The outcome is ok only if every filter has its leaf and there was
no defect before: a dropped filter would widen the result. -/
def FilterLists.build (lists : FilterLists) (scope : Scope) :
    Except ConversionError (Outcome ReportFilters) := do
  let dimension := lists.dimension.map Filter.dimensionLeaf
  let metric ← lists.metric.mapM Filter.metricLeaf
  let filters : ReportFilters :=
    ⟨FilterTree.ofLeaves (scope.leaf :: results dimension), FilterTree.ofLeaves (results metric)⟩
  pure (.collect filters (lists.defects ++ failures dimension ++ failures metric) [])

end ReportQuery
