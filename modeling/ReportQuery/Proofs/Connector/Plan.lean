import ReportQuery.Connector
import ReportQuery.Proofs.Filter.Leaves
import ReportQuery.Proofs.Selection

namespace ReportQuery

def Report.assembled (q : Query) (filters : ReportFilters) (selection : Selection)
    (propertyId : String) (scope : Scope) (dates : DateRange) : Report where
  propertyId
  dates
  dimensionNames := dimensionsFor selection scope
  metricNames := selection.metricNames
  limit := (q.limit.map fun n => (n.val : Int)).getD defaultLimit
  dimensionFilter := filters.dimension
  metricFilter := filters.metric

theorem Report.assemble_eq_map {q : Query} {filters : ReportFilters} {selection : Selection}
    {propertyId : String} {scope : Scope} :
    Report.assemble q filters selection propertyId scope =
      (DateRange.resolve q.dates).map (assembled q filters selection propertyId scope) := by
  rw [assemble]
  cases DateRange.resolve q.dates with
  | error e => rfl
  | ok dates => rfl

namespace Connector

variable {c : Connector} {q : Query}

def planOf (c : Connector) (q : Query) (dimension metric : List Leaf) (dates : DateRange) :
    Plan :=
  ⟨.assembled q (.ofLeaves c.scope dimension metric) (.split q.fields) c.propertyId c.scope dates,
    .split q.fields⟩

theorem prepare_of_build_error {e : ConversionError}
    (hb : (Predicate.filtersOfPart q.predicate).build c.scope = .error e) :
    c.prepare q = .error (.conversion e) := by
  rw [prepare, hb]

theorem prepare_of_build_ok {built : Outcome ReportFilters}
    (hb : (Predicate.filtersOfPart q.predicate).build c.scope = .ok built) :
    ∃ filters, built.data = some filters ∧
      c.prepare q =
        if built.defects ++ Selection.defects q.fields = [] then
          .ok (filters, .split q.fields)
        else .error (.defects (built.defects ++ Selection.defects q.fields)) := by
  obtain ⟨metric, -, he⟩ := FilterLists.build_eq_ok_iff.mp hb
  have hd := congrArg Outcome.data he
  refine ⟨_, hd, ?_⟩
  rw [prepare, hb]
  simp only [hd, Outcome.collect, Selection.ofFields]
  cases built.defects ++ Selection.defects q.fields with
  | nil => rfl
  | cons d ds => rfl

theorem prepare_eq_ok_iff {filters : ReportFilters} {selection : Selection} :
    c.prepare q = .ok (filters, selection) ↔
      (∃ dimension metric, (Predicate.filtersOfPart q.predicate).HasLeaves dimension metric ∧
        filters = .ofLeaves c.scope dimension metric) ∧
      Selection.defects q.fields = [] ∧
      selection = .split q.fields := by
  rw [← FilterLists.build_clean_iff]
  constructor
  · intro h
    cases hb : (Predicate.filtersOfPart q.predicate).build c.scope with
    | error e =>
      rw [prepare_of_build_error hb] at h
      cases h
    | ok built =>
      obtain ⟨data, hd, hp⟩ := prepare_of_build_ok hb
      rw [hp] at h
      split at h
      · next hn =>
        cases h
        rw [List.append_eq_nil_iff] at hn
        exact ⟨⟨built, rfl, hn.1, hd⟩, hn.2, rfl⟩
      · cases h
  · intro h
    obtain ⟨⟨built, hb, hn, hf⟩, hs, rfl⟩ := h
    obtain ⟨data, hd, hp⟩ := prepare_of_build_ok hb
    rw [hd, Option.some.injEq] at hf
    rw [hp, hn, hs, hf]
    rfl

theorem prepare_eq_error_iff {e : PlanError} :
    c.prepare q = .error e ↔
      (∃ conversion, (Predicate.filtersOfPart q.predicate).build c.scope = .error conversion ∧
        e = .conversion conversion) ∨
      ∃ built, (Predicate.filtersOfPart q.predicate).build c.scope = .ok built ∧
        built.defects ++ Selection.defects q.fields ≠ [] ∧
        e = .defects (built.defects ++ Selection.defects q.fields) := by
  constructor
  · intro h
    cases hb : (Predicate.filtersOfPart q.predicate).build c.scope with
    | error conversion =>
      rw [prepare_of_build_error hb] at h
      cases h
      exact .inl ⟨conversion, rfl, rfl⟩
    | ok built =>
      obtain ⟨data, hd, hp⟩ := prepare_of_build_ok hb
      rw [hp] at h
      split at h
      · cases h
      · next hn =>
        cases h
        exact .inr ⟨built, rfl, hn, rfl⟩
  · intro h
    rcases h with ⟨conversion, hb, rfl⟩ | ⟨built, hb, hn, rfl⟩
    · exact prepare_of_build_error hb
    · obtain ⟨data, hd, hp⟩ := prepare_of_build_ok hb
      rw [hp, if_neg hn]

theorem plan_eq_ok_iff {p : Plan} :
    c.plan q = .ok p ↔
      ∃ dimension metric dates,
        (Predicate.filtersOfPart q.predicate).HasLeaves dimension metric ∧
        Selection.defects q.fields = [] ∧ DateRange.resolve q.dates = .ok dates ∧
        p = c.planOf q dimension metric dates := by
  rw [plan, bind_eq_ok_iff]
  constructor
  · intro h
    obtain ⟨⟨filters, selection⟩, hp, h⟩ := h
    obtain ⟨⟨dimension, metric, hl, rfl⟩, hs, rfl⟩ := prepare_eq_ok_iff.mp hp
    simp only [Report.assemble_eq_map] at h
    cases hr : DateRange.resolve q.dates with
    | error e =>
      rw [hr] at h
      cases h
    | ok dates =>
      rw [hr] at h
      cases h
      exact ⟨dimension, metric, dates, hl, hs, rfl, rfl⟩
  · intro h
    obtain ⟨dimension, metric, dates, hl, hs, hr, rfl⟩ := h
    refine ⟨_, prepare_eq_ok_iff.mpr ⟨⟨dimension, metric, hl, rfl⟩, hs, rfl⟩, ?_⟩
    simp only [Report.assemble_eq_map, hr, Except.map]
    rfl

theorem plan_eq_error_iff {e : PlanError} :
    c.plan q = .error e ↔
      c.prepare q = .error e ∨ (∃ parts, c.prepare q = .ok parts) ∧
        ∃ date, DateRange.resolve q.dates = .error date ∧ e = .unsupportedDate date := by
  rw [plan, bind_eq_error_iff, ← exists_and_right]
  apply or_congr_right
  apply exists_congr
  intro parts
  obtain ⟨filters, selection⟩ := parts
  apply and_congr_right
  intro hp
  simp only [Report.assemble_eq_map]
  cases DateRange.resolve q.dates with
  | error date => simp [Except.map, throw, throwThe, MonadExceptOf.throw, eq_comm]
  | ok dates => simp [Except.map, pure, Except.pure]

theorem plan_defects_iff {list : List Defect} :
    c.plan q = .error (.defects list) ↔
      ∃ built, (Predicate.filtersOfPart q.predicate).build c.scope = .ok built ∧ list ≠ [] ∧
        list = built.defects ++ Selection.defects q.fields := by
  rw [plan_eq_error_iff, prepare_eq_error_iff]
  constructor
  · intro h
    obtain (⟨_, _, h⟩ | ⟨built, hb, hn, h⟩) | ⟨_, _, _, h⟩ := h
    · cases h
    · cases h
      exact ⟨built, hb, hn, rfl⟩
    · cases h
  · intro h
    obtain ⟨built, hb, hn, rfl⟩ := h
    exact .inl (.inr ⟨built, hb, hn, rfl⟩)

theorem explain_eq_ok_iff {json : Json} :
    c.explain q = .ok json ↔
      ∃ p, c.plan q = .ok p ∧
        .obj [("predicate", .str (Predicate.describePart q.predicate)),
          ("report_request", p.report.toJson)] = json := by
  rw [explain, bind_eq_ok_iff]
  simp only [pure, Except.pure, Except.ok.injEq]

theorem explain_eq_error_iff {e : PlanError} : c.explain q = .error e ↔ c.plan q = .error e := by
  rw [explain, bind_eq_error_iff]
  simp only [pure, Except.pure, reduceCtorEq, and_false, exists_false, or_false]

def ofShop : Connector := ⟨"123456789", ⟨Scope.defaultDimension, "shop.example.com"⟩⟩

end Connector

/-- A query in which fields share a column and conjunctions are nested and empty. -/
def Query.visits : Query where
  fields :=
    [("visits", "metric_sessions"), ("country", "dimension_country"),
      ("land", "dimension_country")]
  predicate := some (.all
    [.comparison (.column "dimension_country") "_like" (.scalar (.str "^U")), .all [],
      .all [.comparison (.rootColumn "metric_sessions") "_gt" (.scalar (.int 3)),
        .comparison (.column "metric_sessions") "_lt" (.scalar (.str "1e2"))]])
  limit := some ⟨50, by decide⟩
  dates := some ⟨"literal", [("start_date", .str "1/31/2024"), ("endDate", .str "2024-02-29")]⟩
  nodup_fields := by decide

def Report.visits : Report where
  propertyId := "123456789"
  dates := ⟨"2024-01-31", "2024-02-29"⟩
  dimensionNames := ["country", "hostName"]
  metricNames := ["sessions"]
  limit := 50
  dimensionFilter := some (.group
    [.leaf ⟨"hostName", .text "shop.example.com" .exact⟩,
      .leaf ⟨"country", .text "^U" .partialRegexp⟩])
  metricFilter := some (.group
    [.leaf ⟨"sessions", .number .greater (.ofInt 3)⟩,
      .leaf ⟨"sessions", .number .less (.ofInt 100)⟩])

def Plan.visits : Plan where
  report := .visits
  selection := ⟨[("country", "country"), ("land", "country")], [("visits", "sessions")]⟩

theorem plan_visits : Connector.ofShop.plan .visits = .ok .visits :=
  eq_ok_of_toOption (by decide +kernel)

end ReportQuery
