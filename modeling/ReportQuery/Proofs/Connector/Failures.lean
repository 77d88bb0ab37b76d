import Mathlib.Algebra.Group.Int.Defs
import ReportQuery.Proofs.Connector.Plan
import ReportQuery.Proofs.Connector.Run
import ReportQuery.Proofs.Double.Range
import ReportQuery.Proofs.Predicate.Clauses

namespace ReportQuery

/-- A comparison of a metric with an integer that no finite double is nearest to. -/
def Clause.Oversized : Clause → Prop
  | comparison target operator operand =>
    (∃ x, target.name = "metric_" ++ x) ∧ operator ∈ ["_eq", "_gt", "_lt"] ∧
      ∃ n : Int, operand = .scalar (.int n) ∧ Double.integerLimit ≤ n.natAbs
  | _ => False

theorem Operator.appliesTo_metric_iff {o : Operator} :
    o.appliesTo .metric ↔ o.name ∈ ["_eq", "_gt", "_lt"] := by
  cases o <;> decide

theorem Operand.literal?_eq_int_iff {operand : Operand} {n : Int} :
    operand.literal? = some (.int n) ↔ operand = .scalar (.int n) := by
  cases operand with
  | scalar value => cases value <;> simp [literal?]
  | _ => simp [literal?]

theorem Filter.exists_metricLeaf_error_iff {f : Filter} :
    (∃ e, f.metricLeaf = .error e) ↔
      f.kind = .metric ∧ f.operator.name ∈ ["_eq", "_gt", "_lt"] ∧
        ∃ n : Int, f.value = .int n ∧ Double.integerLimit ≤ n.natAbs := by
  rw [← Operator.appliesTo_metric_iff]
  constructor
  · intro h
    obtain ⟨e, he⟩ := h
    obtain ⟨hk, ha, hv⟩ := metricLeaf_eq_error_iff.mp he
    obtain ⟨n, hn, hlimit, -⟩ := Json.toNumber_eq_error_iff.mp hv
    exact ⟨hk, ha, n, hn, hlimit⟩
  · intro h
    obtain ⟨hk, ha, n, hn, hlimit⟩ := h
    have hv : f.value.toNumber = .error (.integerTooLarge n) :=
      Json.toNumber_eq_error_iff.mpr ⟨n, hn, hlimit, rfl⟩
    exact ⟨_, metricLeaf_eq_error_iff.mpr ⟨hk, ha, hv⟩⟩

theorem Operator.exists_name_eq {name : String} (h : name ∈ ["_eq", "_gt", "_lt"]) :
    ∃ o : Operator, o.name = name := by
  simp only [List.mem_cons, List.not_mem_nil, or_false] at h
  rcases h with rfl | rfl | rfl
  · exact ⟨.equal, rfl⟩
  · exact ⟨.greater, rfl⟩
  · exact ⟨.less, rfl⟩

theorem Clause.oversized_iff {clause : Clause} :
    clause.Oversized ↔ ∃ f, clause.verdict = .ok f ∧ ∃ e, f.metricLeaf = .error e := by
  cases clause with
  | comparison target operator operand =>
    simp only [Oversized, verdict, Filter.exists_metricLeaf_error_iff,
      Filter.ofComparison_eq_ok_iff]
    constructor
    · intro h
      obtain ⟨⟨x, hx⟩, ho, n, rfl, hn⟩ := h
      obtain ⟨o, rfl⟩ := Operator.exists_name_eq ho
      exact ⟨⟨target.name, x, o, .int n, .metric⟩,
        ⟨rfl, rfl, hx.symm, rfl, Operator.appliesTo_metric_iff.mpr ho⟩, rfl, ho, n, rfl, hn⟩
    · intro h
      obtain ⟨f, ⟨ho, -, hb, hl, -⟩, hk, hname, n, hn, hlimit⟩ := h
      rw [hk] at hb
      rw [hn, Operand.literal?_eq_int_iff] at hl
      exact ⟨⟨f.base, hb.symm⟩, ho ▸ hname, n, hl, hlimit⟩
  | _ => simp [Oversized, verdict]

namespace Connector

variable {c : Connector} {q : Query}

/-- Planning ends in a failed conversion exactly if a clause of the predicate is oversized. -/
theorem plan_conversion_iff :
    (∃ e, c.plan q = .error (.conversion e)) ↔
      ∃ clause ∈ Predicate.clausesOfPart q.predicate, clause.Oversized := by
  have hplan : (∃ e, c.plan q = .error (.conversion e)) ↔
      ∃ e, (Predicate.filtersOfPart q.predicate).build c.scope = .error e := by
    simp [plan_eq_error_iff, prepare_eq_error_iff]
  rw [hplan, FilterLists.build_eq_error_iff, Predicate.filtersOfPart_eq_ofVerdicts]
  constructor
  · intro h
    obtain ⟨f, hf, e, he⟩ := h
    have hr := (List.mem_filter.mp hf).1
    obtain ⟨clause, hc, hv⟩ := List.mem_map.mp (mem_results.mp hr)
    exact ⟨clause, hc, Clause.oversized_iff.mpr ⟨f, hv, e, he⟩⟩
  · intro h
    obtain ⟨clause, hc, ho⟩ := h
    obtain ⟨f, hv, e, he⟩ := Clause.oversized_iff.mp ho
    have hk : f.kind = .metric := (Filter.metricLeaf_eq_error_iff.mp he).1
    have hr : f ∈ results ((Predicate.clausesOfPart q.predicate).map Clause.verdict) :=
      mem_results.mpr (List.mem_map.mpr ⟨clause, hc, hv⟩)
    exact ⟨f, List.mem_filter.mpr ⟨hr, decide_eq_true hk⟩, e, he⟩

end Connector

/-- An error that is reported as one of the query itself. -/
def PlanError.IsBadQuery (e : PlanError) : Prop :=
  ∃ failure, e.failure? = some failure ∧ failure.category.isBadQuery ∧
    failure.category.status = 400

theorem PlanError.isBadQuery_iff {e : PlanError} :
    e.IsBadQuery ↔ ∀ conversion, e ≠ .conversion conversion := by
  cases e with
  | defects list => exact iff_of_true ⟨_, rfl, rfl, rfl⟩ (fun _ h => nomatch h)
  | unsupportedDate d => exact iff_of_true ⟨_, rfl, rfl, rfl⟩ (fun _ h => nomatch h)
  | conversion e => exact iff_of_false (fun ⟨_, h, _⟩ => nomatch h) (fun h => h e rfl)

theorem PlanError.isSome_failure?_iff {e : PlanError} : e.failure?.isSome ↔ e.IsBadQuery := by
  constructor
  · intro h
    rw [isBadQuery_iff]
    intro conversion he
    rw [he] at h
    cases h
  · intro h
    obtain ⟨failure, hf, -⟩ := h
    rw [hf]
    rfl

namespace Connector

variable {Sent : Type} {c : Connector} {q : Query} {client : ReportClient Sent} {trace : Trace}

theorem plan_isBadQuery_iff :
    (∀ e, c.plan q = .error e → e.IsBadQuery) ↔
      ∀ clause ∈ Predicate.clausesOfPart q.predicate, ¬ clause.Oversized := by
  constructor
  · intro h clause hc ho
    obtain ⟨conversion, hp⟩ := plan_conversion_iff.mpr ⟨clause, hc, ho⟩
    exact PlanError.isBadQuery_iff.mp (h _ hp) conversion rfl
  · intro h e hp
    rw [PlanError.isBadQuery_iff]
    intro conversion he
    obtain ⟨clause, hc, ho⟩ := plan_conversion_iff.mp ⟨conversion, he ▸ hp⟩
    exact h clause hc ho

theorem conclude_reported {p : Plan} {answer : Except ClientFailure (List Row)} {e : QueryError}
    (hservice : ∀ f, answer = .error f → f.kind.isOfService)
    (h : (conclude p answer).1 = .error e) : e.failure?.isSome := by
  cases answer with
  | error f =>
    simp only [conclude, hservice f rfl, if_true] at h
    cases h
    rfl
  | ok rows =>
    simp only [conclude] at h
    cases hm : p.selection.mapRows rows (some p.report) with
    | ok mapped =>
      rw [hm] at h
      cases h
    | error bad =>
      rw [hm] at h
      cases h
      rfl

/-- Under a client whose failures are those of the service, a query itself adds no failure that is
not reported. -/
theorem query_reported_iff
    (hservice : ∀ report f, (client report).answer = .error f → f.kind.isOfService) :
    (∀ e, (c.query (some client) q trace).result = .error e → e.failure?.isSome) ↔
      ∀ e, c.plan q = .error e → e.IsBadQuery := by
  constructor
  · intro h e hp
    have hf := h (.rejected e) (query_result_of_rejected hp)
    exact PlanError.isSome_failure?_iff.mp hf
  · intro h e he
    cases hp : c.plan q with
    | error e' =>
      rw [query_result_of_rejected hp] at he
      cases he
      exact PlanError.isSome_failure?_iff.mpr (h e' hp)
    | ok p =>
      rw [query_result_of_plan hp] at he
      exact conclude_reported (hservice p.report) he

/-- Planning and explaining fail only as bad queries do, and running only with reported failures,
exactly if no clause of the predicate is oversized. -/
theorem failures_reported_iff (c : Connector) (q : Query) (trace : Trace)
    (hservice : ∀ report f, (client report).answer = .error f → f.kind.isOfService) :
    ((∀ e, c.plan q = .error e → e.IsBadQuery) ↔
      ∀ clause ∈ Predicate.clausesOfPart q.predicate, ¬ clause.Oversized) ∧
    ((∀ e, c.explain q = .error e → e.IsBadQuery) ↔
      ∀ clause ∈ Predicate.clausesOfPart q.predicate, ¬ clause.Oversized) ∧
    ((∀ e, (c.query (some client) q trace).result = .error e → e.failure?.isSome) ↔
      ∀ clause ∈ Predicate.clausesOfPart q.predicate, ¬ clause.Oversized) := by
  refine ⟨plan_isBadQuery_iff, ?_, (query_reported_iff hservice).trans plan_isBadQuery_iff⟩
  simp only [explain_eq_error_iff]
  exact plan_isBadQuery_iff

theorem failures_reported_iff_visits :
    let client := ReportClient.inMemory (.error ⟨.tooManyRequests, "quota", none⟩)
    (∀ report f, (client report).answer = .error f → f.kind.isOfService) ∧
    ((∀ e, ofShop.plan .visits = .error e → e.IsBadQuery) ↔
      ∀ clause ∈ Predicate.clausesOfPart Query.visits.predicate, ¬ clause.Oversized) ∧
    ((∀ e, ofShop.explain .visits = .error e → e.IsBadQuery) ↔
      ∀ clause ∈ Predicate.clausesOfPart Query.visits.predicate, ¬ clause.Oversized) ∧
    ((∀ e, (ofShop.query (some client) .visits (.fresh "trace")).result = .error e →
        e.failure?.isSome) ↔
      ∀ clause ∈ Predicate.clausesOfPart Query.visits.predicate, ¬ clause.Oversized) := by
  intro client
  have hservice : ∀ report f, (client report).answer = .error f → f.kind.isOfService := by
    intro report f h
    cases h
    rfl
  exact ⟨hservice, failures_reported_iff ofShop .visits (.fresh "trace") hservice⟩

end Connector

def Query.hugeVisits : Query where
  fields := [("visits", "metric_sessions")]
  predicate := some (.comparison (.column "metric_sessions") "_gt" (.scalar (.int (10 ^ 309))))
  limit := none
  dates := none
  nodup_fields := by decide

namespace Connector

/-- Past the finite doubles planning, explaining and running fail in a way that is not reported. -/
theorem hugeVisits_not_reported :
    (∃ e, ofShop.plan .hugeVisits = .error e ∧ ¬ e.IsBadQuery) ∧
    (∃ e, ofShop.explain .hugeVisits = .error e ∧ ¬ e.IsBadQuery) ∧
    ∃ e, (ofShop.query (some (.inMemory (.ok []))) .hugeVisits (.fresh "trace")).result =
      .error e ∧ e.failure? = none := by
  have hoversized : Clause.Oversized
      (.comparison (.column "metric_sessions") "_gt" (.scalar (.int (10 ^ 309)))) :=
    ⟨⟨"sessions", rfl⟩, by decide, 10 ^ 309, rfl, by decide +kernel⟩
  obtain ⟨conversion, hp⟩ : ∃ e, ofShop.plan .hugeVisits = .error (.conversion e) :=
    plan_conversion_iff.mpr ⟨_, List.mem_singleton.mpr rfl, hoversized⟩
  have hbad : ¬ (PlanError.conversion conversion).IsBadQuery :=
    fun h => PlanError.isBadQuery_iff.mp h conversion rfl
  exact ⟨⟨_, hp, hbad⟩, ⟨_, explain_eq_error_iff.mpr hp, hbad⟩, _, query_result_of_rejected hp, rfl⟩

end Connector

end ReportQuery
