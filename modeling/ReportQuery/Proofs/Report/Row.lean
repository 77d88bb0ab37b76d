import Mathlib.Data.List.Forall2
import ReportQuery.Report.Row
import ReportQuery.Proofs.Selection

namespace ReportQuery

/-- What is shown for a value: nothing where there is none or an empty one, and else the value. -/
inductive ShownAs : Option String → Option String → Prop where
  | absent : ShownAs none none
  | empty : ShownAs (some "") none
  | text {s : String} : s ≠ "" → ShownAs (some s) (some s)

theorem shownAs_shown (value : Option String) : ShownAs value (shown value) := by
  unfold shown
  split
  · exact .empty
  · next hne =>
    cases value with
    | none => exact .absent
    | some s => exact .text fun hs => hne (congrArg some hs)

namespace Selection

variable {s : Selection} {rows : List Row} {report : Option Report}

/-- Whether a row has a value for every name of a selection. -/
def Covers (s : Selection) (row : Row) : Prop :=
  s.dimensionNames.length ≤ row.dimensionValues.length ∧
    s.metricNames.length ≤ row.metricValues.length

theorem shortfalls_eq_nil_iff {i : Nat} :
    s.shortfalls i rows = [] ↔ ∀ row ∈ rows, s.Covers row := by
  induction rows generalizing i with
  | nil => simp [shortfalls]
  | cons row rows ih =>
    simp only [shortfalls, List.append_eq_nil_iff, ih, List.forall_mem_cons, Covers,
      ite_eq_right_iff, reduceCtorEq, imp_false, Nat.not_lt]

theorem mapRows_eq_ok_iff {mapped : List OutputRow} :
    s.mapRows rows report = .ok mapped ↔
      rows ≠ [] ∧ (∀ row ∈ rows, s.Covers row) ∧ mapped = rows.map s.outputRow := by
  rw [mapRows, ← shortfalls_eq_nil_iff (i := 0)]
  cases rows with
  | nil => simp [rowErrors]
  | cons row rows =>
    cases hs : s.shortfalls 0 (row :: rows) with
    | nil => simp [rowErrors, hs, eq_comm]
    | cons e es => simp [rowErrors, hs]

theorem keys_project {fields : Entries String} {names : List String}
    {values : List (Option String)} : (project fields names values).keys = fields.keys := by
  rw [project, Entries.keys, List.map_map]
  rfl

theorem keys_projections (s : Selection) (row : Row) :
    Entries.keys (project s.dimensions s.dimensionNames row.dimensionValues ++
      project s.metrics s.metricNames row.metricValues) =
        s.dimensions.keys ++ s.metrics.keys := by
  rw [Entries.keys, List.map_append, ← Entries.keys, ← Entries.keys, keys_project, keys_project]

theorem outputRow_of_nodup (h : (s.dimensions.keys ++ s.metrics.keys).Nodup) (row : Row) :
    s.outputRow row = project s.dimensions s.dimensionNames row.dimensionValues ++
      project s.metrics s.metricNames row.metricValues :=
  Entries.ofList_of_nodup (s.keys_projections row ▸ h)

theorem valueOf_of_prefix {names : List String} {values : List (Option String)}
    {value : String → Option String} {base : String} (h : names.map value <+: values)
    (hb : base ∈ names) : valueOf names values base = shown (value base) := by
  obtain ⟨rest, rfl⟩ := h
  have hi : names.idxOf base < names.length := List.idxOf_lt_length_of_mem hb
  have hv : (names.map value ++ rest)[names.idxOf base]? = some (value base) := by
    rw [List.getElem?_append_left (by rwa [List.length_map]), List.getElem?_map,
      List.getElem?_eq_getElem hi, List.getElem_idxOf, Option.map_some]
  rw [valueOf, hv, Option.getD_some]

theorem mem_project {fields : Entries String} {values : List (Option String)}
    {value : String → Option String} {field base : String}
    (h : (distinct (fields.map (·.2))).map value <+: values) (hm : (field, base) ∈ fields) :
    (field, shown (value base)) ∈ project fields (distinct (fields.map (·.2))) values := by
  have hb : base ∈ distinct (fields.map (·.2)) := mem_distinct.mpr (List.mem_map.mpr ⟨_, hm, rfl⟩)
  rw [← valueOf_of_prefix h hb]
  exact List.mem_map.mpr ⟨_, hm, rfl⟩

end Selection

/-- What the data hold for a row: a value, if there is one, for each dimension and each metric. -/
structure Environment where
  dimension : String → Option String
  metric : String → Option String

namespace Environment

/-- A row whose values begin with those for the names that a report asks for. -/
structure Answers (env : Environment) (report : Report) (row : Row) : Prop where
  dimension : report.dimensionNames.map env.dimension <+: row.dimensionValues
  metric : report.metricNames.map env.metric <+: row.metricValues

/-- An output row with the fields of dimensions, then those of metrics, each with the value of its
own column. -/
structure Fills (env : Environment) (fields : Entries String) (row : OutputRow) : Prop where
  keys : Entries.keys row = fieldNames .dimension fields ++ fieldNames .metric fields
  dimension : ∀ field x, (field, "dimension_" ++ x) ∈ fields →
    ∃ value, Entries.get? field row = some value ∧ ShownAs (env.dimension x) value
  metric : ∀ field x, (field, "metric_" ++ x) ∈ fields →
    ∃ value, Entries.get? field row = some value ∧ ShownAs (env.metric x) value

variable {env : Environment} {fields : Entries String} {row : Row}

theorem fills_outputRow (h : fields.keys.Nodup)
    (hd : (Selection.split fields).dimensionNames.map env.dimension <+: row.dimensionValues)
    (hm : (Selection.split fields).metricNames.map env.metric <+: row.metricValues) :
    env.Fills fields ((Selection.split fields).outputRow row) := by
  let s := Selection.split fields
  have hkeys : s.dimensions.keys ++ s.metrics.keys =
      fieldNames .dimension fields ++ fieldNames .metric fields := by
    rw [← Selection.keys_fieldsOf, ← Selection.keys_fieldsOf]
    rfl
  have hnodup : (s.dimensions.keys ++ s.metrics.keys).Nodup := hkeys ▸ nodup_fieldNames_append h
  have hout := Selection.outputRow_of_nodup hnodup row
  rw [← s.keys_projections row] at hkeys hnodup
  rw [hout]
  refine ⟨hkeys, ?_, ?_⟩
  · intro field x hf
    refine ⟨_, Entries.get?_eq_some_of_mem hnodup ?_, shownAs_shown _⟩
    apply List.mem_append_left
    exact Selection.mem_project hd (Selection.mem_fieldsOf.mpr hf)
  · intro field x hf
    refine ⟨_, Entries.get?_eq_some_of_mem hnodup ?_, shownAs_shown _⟩
    apply List.mem_append_right
    exact Selection.mem_project hm (Selection.mem_fieldsOf.mpr hf)

end Environment

end ReportQuery
