import ReportQuery.Attempts
import ReportQuery.Filter.Assembly

namespace ReportQuery

namespace Filter

variable {f : Filter} {leaf : Leaf}

theorem dimensionLeaf_of_mismatch {d : Defect} (hk : f.kind = .dimension)
    (hm : f.operator.mismatch? .dimension f.column = some d) : f.dimensionLeaf = .error d := by
  rw [dimensionLeaf, if_neg (Decidable.not_not.mpr hk)]
  split
  · next h => exact congrArg Except.error (Option.some.inj (h.symm.trans hm))
  · next h => cases hm.symm.trans h

theorem dimensionLeaf_of_appliesTo (hk : f.kind = .dimension)
    (ha : f.operator.appliesTo .dimension) :
    f.dimensionLeaf = match f.value with
      | .str s => .ok ⟨f.base, .text s (f.operator.textMatch ha)⟩
      | value => .error (.dimensionValue f.column value) := by
  have hm : f.operator.mismatch? .dimension f.column = none := Operator.mismatch?_eq_none_iff.mpr ha
  rw [dimensionLeaf, if_neg (Decidable.not_not.mpr hk)]
  split
  · next h => cases hm.symm.trans h
  · rfl

theorem metricLeaf_of_mismatch {d : Defect} (hk : f.kind = .metric)
    (hm : f.operator.mismatch? .metric f.column = some d) : f.metricLeaf = .ok (.error d) := by
  rw [metricLeaf, if_neg (Decidable.not_not.mpr hk)]
  split
  · next h => exact congrArg (Except.ok ∘ Except.error) (Option.some.inj (h.symm.trans hm))
  · next h => cases hm.symm.trans h

theorem metricLeaf_of_appliesTo (hk : f.kind = .metric) (ha : f.operator.appliesTo .metric) :
    f.metricLeaf = f.value.toNumber.map fun
      | some x => .ok ⟨f.base, .number (f.operator.numberComparison ha) x⟩
      | none => .error (.metricValue f.column f.value) := by
  have hm : f.operator.mismatch? .metric f.column = none := Operator.mismatch?_eq_none_iff.mpr ha
  rw [metricLeaf, if_neg (Decidable.not_not.mpr hk)]
  split
  · next h => cases hm.symm.trans h
  · rfl

theorem dimensionLeaf_eq_ok_iff :
    f.dimensionLeaf = .ok leaf ↔
      f.kind = .dimension ∧ ∃ matching s, f.operator.textMatch? = some matching ∧
        f.value = .str s ∧ leaf = ⟨f.base, .text s matching⟩ := by
  constructor
  · intro h
    rw [dimensionLeaf] at h
    split at h
    · cases h
    · next hk =>
      refine ⟨Decidable.not_not.mp hk, ?_⟩
      split at h
      · cases h
      · split at h
        · next s hv =>
          cases h
          exact ⟨_, s, Operator.textMatch?_eq_some _, hv, rfl⟩
        · cases h
  · intro h
    obtain ⟨hk, matching, s, hm, hv, rfl⟩ := h
    have ha : f.operator.appliesTo .dimension :=
      Operator.isSome_textMatch?_iff.mp (Option.isSome_of_eq_some hm)
    rw [Operator.textMatch?_eq_some ha] at hm
    cases hm
    rw [dimensionLeaf_of_appliesTo hk ha, hv]

theorem metricLeaf_eq_ok_iff :
    f.metricLeaf = .ok (.ok leaf) ↔
      f.kind = .metric ∧ ∃ comparison x, f.operator.numberComparison? = some comparison ∧
        f.value.toNumber = .ok (some x) ∧ leaf = ⟨f.base, .number comparison x⟩ := by
  constructor
  · intro h
    rw [metricLeaf] at h
    split at h
    · cases h
    · next hk =>
      refine ⟨Decidable.not_not.mp hk, ?_⟩
      split at h
      · cases h
      · obtain ⟨x, hx, h⟩ := map_eq_ok_iff.mp h
        cases x with
        | none => cases h
        | some x =>
          cases h
          exact ⟨_, x, Operator.numberComparison?_eq_some _, hx, rfl⟩
  · intro h
    obtain ⟨hk, comparison, x, hc, hx, rfl⟩ := h
    have ha : f.operator.appliesTo .metric :=
      Operator.isSome_numberComparison?_iff.mp (Option.isSome_of_eq_some hc)
    rw [Operator.numberComparison?_eq_some ha] at hc
    cases hc
    rw [metricLeaf_of_appliesTo hk ha, hx]
    rfl

/-- The number of a filter is looked at only once its column and its operator are right. -/
theorem metricLeaf_eq_error_iff {e : ConversionError} :
    f.metricLeaf = .error e ↔
      f.kind = .metric ∧ f.operator.appliesTo .metric ∧ f.value.toNumber = .error e := by
  constructor
  · intro h
    rw [metricLeaf] at h
    split at h
    · cases h
    · next hk =>
      refine ⟨Decidable.not_not.mp hk, ?_⟩
      split at h
      · cases h
      · next hm => exact ⟨Operator.mismatch?_eq_none_iff.mp hm, map_eq_error_iff.mp h⟩
  · intro h
    obtain ⟨hk, ha, hx⟩ := h
    rw [metricLeaf_of_appliesTo hk ha, hx]
    rfl

end Filter

namespace FilterTree

mutual

def leaves : FilterTree → List Leaf
  | leaf l => [l]
  | group parts => leavesOf parts

def leavesOf : List FilterTree → List Leaf
  | [] => []
  | part :: parts => leaves part ++ leavesOf parts

end

def leavesIn : Option FilterTree → List Leaf
  | none => []
  | some tree => tree.leaves

theorem leavesOf_map_leaf (list : List Leaf) : leavesOf (list.map .leaf) = list := by
  induction list with
  | nil => rfl
  | cons l list ih => rw [List.map_cons, leavesOf, leaves, ih, List.singleton_append]

@[simp]
theorem leavesIn_ofLeaves (list : List Leaf) : leavesIn (ofLeaves list) = list := by
  match list with
  | [] => rfl
  | [l] => rw [ofLeaves, leavesIn, leaves]
  | l :: l' :: rest =>
    change leavesOf ((l :: l' :: rest).map .leaf) = _
    exact leavesOf_map_leaf _

end FilterTree

/-- The trees of leaves: that of the scope heads those on dimensions. -/
def ReportFilters.ofLeaves (scope : Scope) (dimension metric : List Leaf) : ReportFilters :=
  ⟨FilterTree.ofLeaves (scope.leaf :: dimension), FilterTree.ofLeaves metric⟩

namespace FilterLists

/-- Lists without defects in which every filter has a leaf. -/
structure HasLeaves (lists : FilterLists) (dimension metric : List Leaf) : Prop where
  clean : lists.defects = []
  dimension : lists.dimension.map Filter.dimensionLeaf = dimension.map .ok
  metric : lists.metric.map Filter.metricLeaf = metric.map fun leaf => .ok (.ok leaf)

variable {lists : FilterLists} {scope : Scope}

theorem build_eq_ok_iff {built : Outcome ReportFilters} :
    lists.build scope = .ok built ↔
      ∃ metric, lists.metric.map Filter.metricLeaf = metric.map .ok ∧
        built = .collect
          (.ofLeaves scope (results (lists.dimension.map Filter.dimensionLeaf)) (results metric))
          (lists.defects ++ failures (lists.dimension.map Filter.dimensionLeaf) ++ failures metric)
          [] := by
  rw [build]
  simp only [bind_eq_ok_iff, mapM_eq_ok_iff]
  constructor
  · intro h
    obtain ⟨metric, hm, h⟩ := h
    cases h
    exact ⟨metric, hm, rfl⟩
  · intro h
    obtain ⟨metric, hm, rfl⟩ := h
    exact ⟨metric, hm, rfl⟩

theorem build_eq_error_iff :
    (∃ e, lists.build scope = .error e) ↔ ∃ f ∈ lists.metric, ∃ e, f.metricLeaf = .error e := by
  rw [← mapM_eq_error_iff, build]
  simp only [bind_eq_error_iff, pure, Except.pure, reduceCtorEq, and_false, exists_false, or_false]

theorem build_clean_iff {filters : ReportFilters} :
    (∃ built, lists.build scope = .ok built ∧ built.defects = [] ∧ built.data = some filters) ↔
      ∃ dimension metric, lists.HasLeaves dimension metric ∧
        filters = .ofLeaves scope dimension metric := by
  constructor
  · intro h
    obtain ⟨built, hb, hd, hf⟩ := h
    obtain ⟨metric, hm, rfl⟩ := build_eq_ok_iff.mp hb
    simp only [Outcome.collect, List.append_eq_nil_iff, failures_eq_nil_iff] at hd
    obtain ⟨⟨hclean, dimension, hdim⟩, leaves, rfl⟩ := hd
    refine ⟨dimension, leaves, ⟨hclean, hdim, ?_⟩, ?_⟩
    · rw [hm, List.map_map]
      rfl
    · simp only [Outcome.collect, Option.some.injEq] at hf
      rw [← hf, hdim, results_map_ok, results_map_ok]
  · intro h
    obtain ⟨dimension, metric, ⟨hclean, hdim, hmet⟩, rfl⟩ := h
    refine ⟨_, build_eq_ok_iff.mpr ⟨metric.map .ok, ?_, rfl⟩, ?_, ?_⟩
    · rw [hmet, List.map_map]
      rfl
    · simp only [Outcome.collect, List.append_eq_nil_iff, failures_eq_nil_iff]
      exact ⟨⟨hclean, dimension, hdim⟩, metric, rfl⟩
    · simp only [Outcome.collect, hdim, results_map_ok]

end FilterLists

end ReportQuery
