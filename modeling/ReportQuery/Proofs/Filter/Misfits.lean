import ReportQuery.Proofs.Filter.Leaves
import ReportQuery.Proofs.Predicate.Verdicts

namespace ReportQuery

def errorOf? {ε α : Type} : Except ε α → Option ε
  | .error e => some e
  | .ok _ => none

theorem failures_eq_filterMap {ε α : Type} (list : List (Except ε α)) :
    failures list = list.filterMap errorOf? := rfl

/-- The defect of a filter whose value is none that the tests of its kind can use: dimensions are
tested with texts, and metrics with whatever converts to a finite number. -/
def Filter.misfit? (f : Filter) : Option Defect :=
  match f.kind, f.value with
  | .dimension, .str _ => none
  | .dimension, value => some (.dimensionValue f.column value)
  | .metric, value =>
    match value.toNumber with
    | .ok (some _) => none
    | _ => some (.metricValue f.column value)

/-- The defect of a clause: that it has no filter, or that the filter has no leaf. -/
def Clause.defect? (clause : Clause) : Option Defect :=
  match clause.verdict with
  | .error d => some d
  | .ok f => f.misfit?

namespace Filter

variable {f : Filter} {filters : List Filter}

theorem errorOf?_dimensionLeaf (hk : f.kind = .dimension)
    (ha : f.operator.appliesTo .dimension) : errorOf? f.dimensionLeaf = f.misfit? := by
  rw [dimensionLeaf_of_appliesTo hk ha, misfit?, hk]
  cases f.value with
  | str s => rfl
  | _ => rfl

theorem errorOf?_of_metricLeaf {x : Except Defect Leaf} (hk : f.kind = .metric)
    (ha : f.operator.appliesTo .metric) (h : f.metricLeaf = .ok x) : errorOf? x = f.misfit? := by
  rw [metricLeaf_of_appliesTo hk ha] at h
  obtain ⟨number, hn, rfl⟩ := map_eq_ok_iff.mp h
  rw [misfit?, hk]
  simp only [hn]
  cases number with
  | none => rfl
  | some d => rfl

theorem failures_dimensionLeaf
    (h : ∀ f ∈ filters, f.kind = .dimension ∧ f.operator.appliesTo .dimension) :
    failures (filters.map dimensionLeaf) = filters.filterMap misfit? := by
  rw [failures_eq_filterMap, List.filterMap_map]
  apply List.filterMap_congr
  intro f hf
  exact errorOf?_dimensionLeaf (h f hf).1 (h f hf).2

theorem failures_of_metricLeaf {metric : List (Except Defect Leaf)}
    (hm : filters.map metricLeaf = metric.map .ok)
    (h : ∀ f ∈ filters, f.kind = .metric ∧ f.operator.appliesTo .metric) :
    failures metric = filters.filterMap misfit? := by
  induction filters generalizing metric with
  | nil =>
    rw [List.map_nil, eq_comm, List.map_eq_nil_iff] at hm
    rw [hm]
    rfl
  | cons f filters ih =>
    cases metric with
    | nil => cases hm
    | cons x metric =>
      obtain ⟨hx, hrest⟩ := List.cons.inj hm
      obtain ⟨⟨hk, ha⟩, hfilters⟩ := List.forall_mem_cons.mp h
      have htail := ih hrest hfilters
      rw [failures_eq_filterMap] at htail
      rw [failures_eq_filterMap, List.filterMap_cons, List.filterMap_cons,
        errorOf?_of_metricLeaf hk ha hx, htail]

theorem ofComparison_eq_error {target : Target} {operator : String} {operand : Operand}
    {d : Defect} (h : Filter.ofComparison target operator operand = .error d) :
    d = .unsupportedOperator operator ∨ d = .unclassifiableColumn target.name none ∨
      d = .unsupportedOperand target.name operand.type ∨
      ∃ o kind, d = .operatorMismatch o kind target.name := by
  have hj : (Clause.comparison target operator operand).Judged (.error d) := Clause.judged_iff.mpr h
  cases hj with
  | refused hr _ =>
    cases hr with
    | operator => exact .inl rfl
    | column => exact .inr (.inl rfl)
    | operand => exact .inr (.inr (.inl rfl))
    | mismatch => exact .inr (.inr (.inr ⟨_, _, rfl⟩))

theorem code_of_misfit? {d : Defect} (h : f.misfit? = some d) : d.code = "type_mismatch" := by
  rw [misfit?] at h
  split at h
  · cases h
  · cases h
    rfl
  · split at h
    · cases h
    · cases h
      rfl

end Filter

namespace FilterLists

variable {lists : FilterLists} {scope : Scope} {built : Outcome ReportFilters}

/-- Lists of filters of their own kinds, by operators that apply to these. -/
structure Sound (lists : FilterLists) : Prop where
  dimension : ∀ f ∈ lists.dimension, f.kind = .dimension ∧ f.operator.appliesTo .dimension
  metric : ∀ f ∈ lists.metric, f.kind = .metric ∧ f.operator.appliesTo .metric

/-- The defects of lists, then those of the values on dimensions, then those on metrics. -/
def allDefects (lists : FilterLists) : List Defect :=
  lists.defects ++ lists.dimension.filterMap Filter.misfit? ++
    lists.metric.filterMap Filter.misfit?

theorem defects_of_build (h : lists.Sound) (hb : lists.build scope = .ok built) :
    built.defects = lists.allDefects := by
  obtain ⟨metric, hm, rfl⟩ := build_eq_ok_iff.mp hb
  have hdimension := Filter.failures_dimensionLeaf h.dimension
  have hmetric := Filter.failures_of_metricLeaf hm h.metric
  simp only [Outcome.collect, allDefects, hdimension, hmetric]

theorem sound_ofVerdicts (clauses : List Clause) :
    (ofVerdicts (clauses.map Clause.verdict)).Sound := by
  have happlies (f : Filter) (hf : f ∈ results (clauses.map Clause.verdict)) :
      f.operator.appliesTo f.kind := by
    obtain ⟨clause, -, hv⟩ := List.mem_map.mp (mem_results.mp hf)
    obtain ⟨target, -, -, -, ha⟩ := Clause.comparison_of_verdict hv
    exact ha
  refine ⟨?_, ?_⟩
  · intro f hf
    obtain ⟨hr, hk⟩ := List.mem_filter.mp hf
    have hk := of_decide_eq_true hk
    exact ⟨hk, hk ▸ happlies f hr⟩
  · intro f hf
    obtain ⟨hr, hk⟩ := List.mem_filter.mp hf
    have hk := of_decide_eq_true hk
    exact ⟨hk, hk ▸ happlies f hr⟩

theorem perm_allDefects_append (a b : FilterLists) :
    (a.append b).allDefects.Perm (a.allDefects ++ b.allDefects) := by
  simp only [allDefects, append, List.filterMap_append, List.append_assoc]
  apply List.Perm.append_left
  apply (List.perm_append_comm_assoc _ _ _).trans
  apply List.Perm.append_left
  have hinner := List.perm_append_comm_assoc (b.dimension.filterMap Filter.misfit?)
    (a.metric.filterMap Filter.misfit?) (b.metric.filterMap Filter.misfit?)
  exact (hinner.append_left b.defects).trans (List.perm_append_comm_assoc _ _ _)

theorem allDefects_ofFilter (f : Filter) : (ofFilter f).allDefects = f.misfit?.toList := by
  have hone : [f].filterMap Filter.misfit? = f.misfit?.toList := by
    rw [List.filterMap_cons]
    cases f.misfit? with
    | none => rfl
    | some d => rfl
  rw [ofFilter, ← hone]
  cases f.kind with
  | dimension => exact List.append_nil _
  | metric => rfl

theorem allDefects_ofVerdicts_singleton (clause : Clause) :
    (ofVerdicts [clause.verdict]).allDefects = clause.defect?.toList := by
  rw [Clause.defect?]
  cases clause.verdict with
  | error d => rfl
  | ok f => rw [ofVerdicts_ok, allDefects_ofFilter]

theorem perm_allDefects (clauses : List Clause) :
    (ofVerdicts (clauses.map Clause.verdict)).allDefects.Perm
      (clauses.filterMap Clause.defect?) := by
  induction clauses with
  | nil => exact .nil
  | cons clause clauses ih =>
    have hcons := perm_allDefects_append (ofVerdicts [clause.verdict])
      (ofVerdicts (clauses.map Clause.verdict))
    rw [← ofVerdicts_append, List.singleton_append, allDefects_ofVerdicts_singleton] at hcons
    have htail := hcons.trans (ih.append_left clause.defect?.toList)
    rw [List.filterMap_cons, List.map_cons]
    cases hd : clause.defect? with
    | none => rwa [hd] at htail
    | some d => rwa [hd] at htail

end FilterLists

end ReportQuery
