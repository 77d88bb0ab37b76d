import ReportQuery.Proofs.Connector.Sending
import ReportQuery.Proofs.Report.Dump

namespace ReportQuery

theorem Double.isFinite_of_finite? {x y : Double} (h : x.finite? = some y) : y.isFinite := by
  rw [finite?] at h
  split at h
  · next hx =>
    cases h
    exact hx
  · cases h

theorem Double.isFinite_of_ofInt? {n : Int} {x : Double} (h : ofInt? n = .ok x) : x.isFinite := by
  rw [ofInt?] at h
  split at h
  · next hx =>
    cases h
    exact hx
  · cases h

theorem Json.isFinite_of_toNumber {v : Json} {x : Double} (h : v.toNumber = .ok (some x)) :
    x.isFinite := by
  cases v with
  | int n =>
    obtain ⟨y, hy, hx⟩ := map_eq_ok_iff.mp h
    cases hx
    exact Double.isFinite_of_ofInt? hy
  | float y => exact Double.isFinite_of_finite? (Except.ok.inj h)
  | str s =>
    obtain ⟨y, -, hx⟩ := Option.bind_eq_some_iff.mp (Except.ok.inj h)
    exact Double.isFinite_of_finite? hx
  | _ => cases h

namespace Filter

variable {f : Filter} {l : Leaf}

theorem isFinite_of_dimensionLeaf (h : f.dimensionLeaf = .ok l) : l.IsFinite := by
  obtain ⟨-, matching, s, -, -, rfl⟩ := dimensionLeaf_eq_ok_iff.mp h
  intro comparison x ht
  cases ht

theorem isFinite_of_metricLeaf (h : f.metricLeaf = .ok (.ok l)) : l.IsFinite := by
  obtain ⟨-, comparison, x, -, hx, rfl⟩ := metricLeaf_eq_ok_iff.mp h
  intro comparison x ht
  cases ht
  exact Json.isFinite_of_toNumber hx

end Filter

theorem Scope.isFinite_leaf (s : Scope) : s.leaf.IsFinite := by
  intro comparison x ht
  cases ht

namespace FilterLists.HasLeaves

variable {lists : FilterLists} {dimension metric : List Leaf}

theorem isFinite_dimension (h : lists.HasLeaves dimension metric) :
    ∀ l ∈ dimension, l.IsFinite := by
  intro l hl
  have hl : Except.ok l ∈ lists.dimension.map Filter.dimensionLeaf := by
    rw [h.dimension]
    exact List.mem_map_of_mem hl
  obtain ⟨f, -, hf⟩ := List.mem_map.mp hl
  exact Filter.isFinite_of_dimensionLeaf hf

theorem isFinite_metric (h : lists.HasLeaves dimension metric) : ∀ l ∈ metric, l.IsFinite := by
  intro l hl
  have hl : Except.ok (Except.ok l) ∈ lists.metric.map Filter.metricLeaf := by
    rw [h.metric]
    exact List.mem_map_of_mem hl
  obtain ⟨f, -, hf⟩ := List.mem_map.mp hl
  exact Filter.isFinite_of_metricLeaf hf

end FilterLists.HasLeaves

namespace Connector

variable {c : Connector} {q : Query} {p : Plan}

theorem isFinite_of_plan (hp : c.plan q = .ok p) :
    (∀ l ∈ FilterTree.leavesIn p.report.dimensionFilter, l.IsFinite) ∧
      ∀ l ∈ FilterTree.leavesIn p.report.metricFilter, l.IsFinite := by
  obtain ⟨dimension, metric, dates, hl, -, -, rfl⟩ := plan_eq_ok_iff.mp hp
  simp only [planOf, Report.assembled, ReportFilters.ofLeaves, FilterTree.leavesIn_ofLeaves,
    List.forall_mem_cons]
  exact ⟨⟨c.scope.isFinite_leaf, hl.isFinite_dimension⟩, hl.isFinite_metric⟩

theorem limit_pos_of_plan (hp : c.plan q = .ok p) : 0 < p.report.limit := by
  rw [limit_of_plan hp]
  cases q.limit with
  | none => decide
  | some n => exact Int.natCast_pos.mpr n.property

/-- The numbers of a planned request are finite and its limit is positive. The request is shown as
it is, nothing of it is lost where only finite numbers can be written, and from what is shown
exactly this request is read. -/
theorem explain_shows_report (hp : c.plan q = .ok p) :
    (∀ l ∈ FilterTree.leavesIn p.report.dimensionFilter ++
        FilterTree.leavesIn p.report.metricFilter,
      ∀ comparison x, l.test = .number comparison x → x.isFinite) ∧
    0 < p.report.limit ∧
    c.explain q = .ok (.obj [("predicate", .str (Predicate.describePart q.predicate)),
      ("report_request", p.report.toJson)]) ∧
    p.report.toJson.finite = p.report.toJson ∧
    Report.check p.report.toJson = .valid p.report := by
  obtain ⟨hd, hm⟩ := isFinite_of_plan hp
  refine ⟨?_, limit_pos_of_plan hp, explain_eq_ok_iff.mpr ⟨p, hp, rfl⟩,
    Report.finite_toJson hd hm, p.report.check_toJson⟩
  intro l hl
  rcases List.mem_append.mp hl with hl | hl
  · exact hd l hl
  · exact hm l hl

theorem explain_shows_report_visits :
    ofShop.plan .visits = .ok .visits ∧
      (∀ l ∈ FilterTree.leavesIn Report.visits.dimensionFilter ++
          FilterTree.leavesIn Report.visits.metricFilter,
        ∀ comparison x, l.test = .number comparison x → x.isFinite) ∧
      0 < Report.visits.limit ∧
      ofShop.explain .visits = .ok (.obj
        [("predicate", .str
            "(dimension_country LIKE '^U' AND () AND (metric_sessions > 3 AND metric_sessions < '1e2'))"),
          ("report_request", Report.visits.toJson)]) ∧
      Report.visits.toJson.finite = Report.visits.toJson ∧
      Report.check Report.visits.toJson = .valid .visits := by
  have hdescribed : Predicate.describePart Query.visits.predicate =
      "(dimension_country LIKE '^U' AND () AND (metric_sessions > 3 AND metric_sessions < '1e2'))" := by
    decide +kernel
  rw [← hdescribed]
  exact ⟨plan_visits, explain_shows_report plan_visits⟩

end Connector

end ReportQuery
