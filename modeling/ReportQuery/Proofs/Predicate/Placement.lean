import ReportQuery.Proofs.Filter.Leaves
import ReportQuery.Proofs.Pointwise
import ReportQuery.Proofs.Predicate.Clauses

namespace ReportQuery

/-- A leaf, and the kind of the fields that its tree tests. -/
structure Place where
  kind : ColumnKind
  leaf : Leaf

/-- The place to which a comparison leads. -/
inductive Clause.Leads : Clause → Place → Prop where
  | exact {target : Target} {x s : String} :
    target.name = "dimension_" ++ x →
      Leads (.comparison target "_eq" (.scalar (.str s))) ⟨.dimension, x, .text s .exact⟩
  | pattern {target : Target} {x s : String} :
    target.name = "dimension_" ++ x →
      Leads (.comparison target "_like" (.scalar (.str s))) ⟨.dimension, x, .text s .partialRegexp⟩
  | equal {target : Target} {x : String} {v : Json} {d : Double} :
    target.name = "metric_" ++ x → v.toNumber = .ok (some d) →
      Leads (.comparison target "_eq" (.scalar v)) ⟨.metric, x, .number .equal d⟩
  | greater {target : Target} {x : String} {v : Json} {d : Double} :
    target.name = "metric_" ++ x → v.toNumber = .ok (some d) →
      Leads (.comparison target "_gt" (.scalar v)) ⟨.metric, x, .number .greater d⟩
  | less {target : Target} {x : String} {v : Json} {d : Double} :
    target.name = "metric_" ++ x → v.toNumber = .ok (some d) →
      Leads (.comparison target "_lt" (.scalar v)) ⟨.metric, x, .number .less d⟩

theorem Operand.eq_scalar_of_literal? {operand : Operand} {value : Json}
    (h : operand.literal? = some value) : operand = .scalar value := by
  cases operand with
  | scalar v =>
    cases v <;> cases h <;> rfl
  | parameter => cases h
  | column => cases h
  | unknown => cases h

namespace Clause

variable {clause : Clause} {f : Filter} {leaf : Leaf}

theorem comparison_of_verdict (h : clause.verdict = .ok f) :
    ∃ target, clause = .comparison target f.operator.name (.scalar f.value) ∧
      f.column = target.name ∧ f.kind.mark ++ f.base = target.name ∧
      f.operator.appliesTo f.kind := by
  cases clause with
  | comparison target operator operand =>
    obtain ⟨rfl, hc, hb, hl, ha⟩ := Filter.ofComparison_eq_ok_iff.mp h
    rw [Operand.eq_scalar_of_literal? hl]
    exact ⟨target, rfl, hc, hb, ha⟩
  | disjunction => cases h
  | negation => cases h
  | existence => cases h
  | unary => cases h
  | unknown => cases h

theorem leads_of_dimensionLeaf (h : clause.verdict = .ok f) (hf : f.dimensionLeaf = .ok leaf) :
    clause.Leads ⟨.dimension, leaf⟩ := by
  obtain ⟨target, rfl, -, hb, -⟩ := comparison_of_verdict h
  obtain ⟨hk, matching, s, hm, hv, rfl⟩ := Filter.dimensionLeaf_eq_ok_iff.mp hf
  rw [hk] at hb
  rw [hv]
  cases ho : f.operator with
  | equal =>
    rw [ho] at hm
    cases hm
    exact .exact hb.symm
  | like =>
    rw [ho] at hm
    cases hm
    exact .pattern hb.symm
  | greater =>
    rw [ho] at hm
    cases hm
  | less =>
    rw [ho] at hm
    cases hm

theorem leads_of_metricLeaf (h : clause.verdict = .ok f) (hf : f.metricLeaf = .ok (.ok leaf)) :
    clause.Leads ⟨.metric, leaf⟩ := by
  obtain ⟨target, rfl, -, hb, -⟩ := comparison_of_verdict h
  obtain ⟨hk, comparison, x, hc, hx, rfl⟩ := Filter.metricLeaf_eq_ok_iff.mp hf
  rw [hk] at hb
  cases ho : f.operator with
  | equal =>
    rw [ho] at hc
    cases hc
    exact .equal hb.symm hx
  | greater =>
    rw [ho] at hc
    cases hc
    exact .greater hb.symm hx
  | less =>
    rw [ho] at hc
    cases hc
    exact .less hb.symm hx
  | like =>
    rw [ho] at hc
    cases hc

end Clause

def leavesOn (kind : ColumnKind) (places : List Place) : List Leaf :=
  (places.filter (·.kind = kind)).map Place.leaf

/-- Every clause that has a filter leads to a place in the tree of the filter's kind. -/
theorem exists_places {clauses : List Clause} {filters : List Filter}
    {dimension metric : List Leaf} (hv : clauses.map Clause.verdict = filters.map .ok)
    (hd : (filters.filter (·.kind = .dimension)).map Filter.dimensionLeaf = dimension.map .ok)
    (hm : (filters.filter (·.kind = .metric)).map Filter.metricLeaf =
      metric.map fun leaf => .ok (.ok leaf)) :
    ∃ places, List.Forall₂ Clause.Leads clauses places ∧
      leavesOn .dimension places = dimension ∧ leavesOn .metric places = metric := by
  induction clauses generalizing filters dimension metric with
  | nil =>
    cases filters with
    | nil =>
      rw [List.filter_nil, List.map_nil, eq_comm, List.map_eq_nil_iff] at hd hm
      subst hd hm
      exact ⟨[], .nil, rfl, rfl⟩
    | cons f filters => cases hv
  | cons clause clauses ih =>
    cases filters with
    | nil => cases hv
    | cons f filters =>
      rw [List.map_cons, List.map_cons, List.cons.injEq] at hv
      cases hk : f.kind with
      | dimension =>
        simp only [List.filter_cons, hk, decide_true, if_true, reduceCtorEq, decide_false,
          Bool.false_eq_true, if_false, List.map_cons] at hd hm
        cases dimension with
        | nil => cases hd
        | cons leaf dimension =>
          rw [List.map_cons, List.cons.injEq] at hd
          obtain ⟨places, hp, rfl, rfl⟩ := ih hv.2 hd.2 hm
          exact ⟨⟨.dimension, leaf⟩ :: places,
            .cons (Clause.leads_of_dimensionLeaf hv.1 hd.1) hp, rfl, rfl⟩
      | metric =>
        simp only [List.filter_cons, hk, decide_true, if_true, reduceCtorEq, decide_false,
          Bool.false_eq_true, if_false, List.map_cons] at hd hm
        cases metric with
        | nil => cases hm
        | cons leaf metric =>
          rw [List.map_cons, List.cons.injEq] at hm
          obtain ⟨places, hp, rfl, rfl⟩ := ih hv.2 hd hm.2
          exact ⟨⟨.metric, leaf⟩ :: places,
            .cons (Clause.leads_of_metricLeaf hv.1 hm.1) hp, rfl, rfl⟩

theorem FilterLists.HasLeaves.places {p : Option Predicate} {dimension metric : List Leaf}
    (h : (Predicate.filtersOfPart p).HasLeaves dimension metric) :
    ∃ places, List.Forall₂ Clause.Leads (Predicate.clausesOfPart p) places ∧
      leavesOn .dimension places = dimension ∧ leavesOn .metric places = metric := by
  rw [Predicate.filtersOfPart_eq_ofVerdicts] at h
  obtain ⟨filters, hv⟩ := failures_eq_nil_iff.mp h.clean
  have hd := h.dimension
  have hm := h.metric
  simp only [ofVerdicts, hv, results_map_ok] at hd hm
  exact exists_places hv hd hm

theorem Operand.literal?_scalar {v : Json} (h : v ≠ .null) :
    (Operand.scalar v).literal? = some v := by
  cases v with
  | null => exact absurd rfl h
  | _ => rfl

theorem Json.ne_null_of_toNumber {v : Json} {d : Double} (h : v.toNumber = .ok (some d)) :
    v ≠ .null := by
  rintro rfl
  cases h

namespace Clause

variable {clause : Clause} {leaf : Leaf} {target : Target} {base : String} {v : Json}

theorem verdict_comparison (o : Operator) (kind : ColumnKind) (hb : target.name = kind.mark ++ base)
    (hv : v ≠ .null) (ha : o.appliesTo kind) :
    (comparison target o.name (.scalar v)).verdict = .ok ⟨target.name, base, o, v, kind⟩ :=
  Filter.ofComparison_eq_ok_iff.mpr ⟨rfl, rfl, hb.symm, Operand.literal?_scalar hv, ha⟩

theorem Leads.exists_dimensionLeaf (h : clause.Leads ⟨.dimension, leaf⟩) :
    ∃ f, clause.verdict = .ok f ∧ f.dimensionLeaf = .ok leaf := by
  cases h with
  | exact ht => exact ⟨_, verdict_comparison .equal .dimension ht nofun rfl, rfl⟩
  | pattern ht => exact ⟨_, verdict_comparison .like .dimension ht nofun rfl, rfl⟩

theorem Leads.exists_metricLeaf (h : clause.Leads ⟨.metric, leaf⟩) :
    ∃ f, clause.verdict = .ok f ∧ f.metricLeaf = .ok (.ok leaf) := by
  cases h with
  | equal ht hv =>
    have hn := Json.ne_null_of_toNumber hv
    exact ⟨_, verdict_comparison .equal .metric ht hn rfl,
      Filter.metricLeaf_eq_ok_iff.mpr ⟨rfl, _, _, rfl, hv, rfl⟩⟩
  | greater ht hv =>
    have hn := Json.ne_null_of_toNumber hv
    exact ⟨_, verdict_comparison .greater .metric ht hn rfl,
      Filter.metricLeaf_eq_ok_iff.mpr ⟨rfl, _, _, rfl, hv, rfl⟩⟩
  | less ht hv =>
    have hn := Json.ne_null_of_toNumber hv
    exact ⟨_, verdict_comparison .less .metric ht hn rfl,
      Filter.metricLeaf_eq_ok_iff.mpr ⟨rfl, _, _, rfl, hv, rfl⟩⟩

end Clause

namespace FilterLists

variable {f : Filter} {leaf : Leaf}

theorem hasLeaves_of_dimensionLeaf (hf : f.dimensionLeaf = .ok leaf) :
    (ofFilter f).HasLeaves [leaf] [] := by
  have hk : f.kind = .dimension := (Filter.dimensionLeaf_eq_ok_iff.mp hf).1
  rw [ofFilter, hk]
  exact ⟨rfl, congrArg (fun x => [x]) hf, rfl⟩

theorem hasLeaves_of_metricLeaf (hf : f.metricLeaf = .ok (.ok leaf)) :
    (ofFilter f).HasLeaves [] [leaf] := by
  have hk : f.kind = .metric := (Filter.metricLeaf_eq_ok_iff.mp hf).1
  rw [ofFilter, hk]
  exact ⟨rfl, rfl, congrArg (fun x => [x]) hf⟩

theorem HasLeaves.append {lists more : FilterLists}
    {dimension metric dimension' metric' : List Leaf}
    (h : lists.HasLeaves dimension metric) (h' : more.HasLeaves dimension' metric') :
    (lists.append more).HasLeaves (dimension ++ dimension') (metric ++ metric') where
  clean := by rw [FilterLists.append, h.clean, h'.clean, List.nil_append]
  dimension := by
    rw [FilterLists.append, List.map_append, h.dimension, h'.dimension, List.map_append]
  metric := by
    rw [FilterLists.append, List.map_append, h.metric, h'.metric, List.map_append]

end FilterLists

/-- Where every clause leads to a place, the filters have the leaves that stand there. -/
theorem hasLeaves_of_places {clauses : List Clause} {places : List Place}
    (h : List.Forall₂ Clause.Leads clauses places) :
    (FilterLists.ofVerdicts (clauses.map Clause.verdict)).HasLeaves
      (leavesOn .dimension places) (leavesOn .metric places) := by
  induction h with
  | nil => exact ⟨rfl, rfl, rfl⟩
  | @cons clause place clauses places hl hp ih =>
    have hcons (f : Filter) (verdicts : List (Except Defect Filter)) :
        FilterLists.ofVerdicts (.ok f :: verdicts) =
          (FilterLists.ofFilter f).append (.ofVerdicts verdicts) := by
      rw [← FilterLists.ofVerdicts_ok, ← FilterLists.ofVerdicts_append, List.singleton_append]
    obtain ⟨kind, leaf⟩ := place
    cases kind with
    | dimension =>
      obtain ⟨f, hv, hf⟩ := hl.exists_dimensionLeaf
      rw [List.map_cons, hv, hcons]
      exact (FilterLists.hasLeaves_of_dimensionLeaf hf).append ih
    | metric =>
      obtain ⟨f, hv, hf⟩ := hl.exists_metricLeaf
      rw [List.map_cons, hv, hcons]
      exact (FilterLists.hasLeaves_of_metricLeaf hf).append ih

/-- The filters of a predicate have their leaves exactly if each of its clauses leads to a place. -/
theorem exists_hasLeaves_iff {p : Option Predicate} :
    (∃ dimension metric, (Predicate.filtersOfPart p).HasLeaves dimension metric) ↔
      ∃ places, List.Forall₂ Clause.Leads (Predicate.clausesOfPart p) places := by
  constructor
  · intro h
    obtain ⟨dimension, metric, h⟩ := h
    obtain ⟨places, hp, -, -⟩ := h.places
    exact ⟨places, hp⟩
  · intro h
    obtain ⟨places, hp⟩ := h
    rw [Predicate.filtersOfPart_eq_ofVerdicts]
    exact ⟨_, _, hasLeaves_of_places hp⟩

end ReportQuery
