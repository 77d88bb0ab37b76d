import ReportQuery.Proofs.Connector.Plan
import ReportQuery.Proofs.Report.Wire

namespace ReportQuery

namespace Connector

variable {c : Connector} {q : Query} {p : Plan}

theorem shallow_of_plan (hp : c.plan q = .ok p) :
    Wire.Expression.Shallow p.report.dimensionFilter ∧
      Wire.Expression.Shallow p.report.metricFilter := by
  obtain ⟨dimension, metric, dates, -, -, -, rfl⟩ := plan_eq_ok_iff.mp hp
  exact ⟨Wire.Expression.shallow_ofLeaves _, Wire.Expression.shallow_ofLeaves _⟩

theorem limit_of_plan (hp : c.plan q = .ok p) :
    p.report.limit = (q.limit.map fun n => (n.val : Int)).getD Report.defaultLimit := by
  obtain ⟨dimension, metric, dates, -, -, -, rfl⟩ := plan_eq_ok_iff.mp hp
  rfl

theorem limit_inRange_iff_of_plan (hp : c.plan q = .ok p) :
    (-0x8000000000000000 ≤ p.report.limit ∧ p.report.limit < 0x8000000000000000) ↔
      ∀ n, q.limit = some n → n.val < 0x8000000000000000 := by
  rw [limit_of_plan hp]
  cases q.limit with
  | none =>
    have hd : -0x8000000000000000 ≤ Report.defaultLimit ∧
      Report.defaultLimit < 0x8000000000000000 := by decide
    exact iff_of_true hd (fun n hn => nomatch hn)
  | some limit =>
    simp only [Option.map_some, Option.getD_some, Option.some.injEq, forall_eq']
    omega

/-- A planned request is encoded, with its own limit, exactly if the query asks for fewer than
`2 ^ 63` rows; any other is refused for its limit and for nothing else. -/
theorem encodes_iff_of_plan (hp : c.plan q = .ok p) :
    ((∃ request, Wire.Request.ofReport p.report = .ok request ∧
        request.limit.val = p.report.limit) ↔
      ∀ n, q.limit = some n → n.val < 0x8000000000000000) ∧
    ∀ e, Wire.Request.ofReport p.report = .error e → e = .outOfRange p.report.limit := by
  obtain ⟨hd, hm⟩ := shallow_of_plan hp
  refine ⟨?_, ?_⟩
  · rw [← limit_inRange_iff_of_plan hp, ← Wire.Int64Field.exists_ofInt_iff]
    constructor
    · intro h
      obtain ⟨request, -, hl⟩ := h
      exact ⟨request.limit, Wire.Int64Field.ofInt_eq_ok_iff.mpr hl⟩
    · intro h
      obtain ⟨limit, hl⟩ := h
      exact ⟨_, Wire.Request.ofReport_eq_ok_of_limit hl hd hm,
        Wire.Int64Field.ofInt_eq_ok_iff.mp hl⟩
  · intro e he
    cases hl : Wire.Int64Field.ofInt p.report.limit with
    | ok limit =>
      rw [Wire.Request.ofReport_eq_ok_of_limit hl hd hm] at he
      cases he
    | error refused =>
      rw [Wire.Request.ofReport_eq_error_of_limit hl] at he
      cases he
      exact (Wire.Int64Field.ofInt_eq_error_iff.mp hl).2

theorem encodes_iff_of_plan_visits :
    ofShop.plan .visits = .ok .visits ∧
      ((∃ request, Wire.Request.ofReport .visits = .ok request ∧ request.limit.val = 50) ↔
        ∀ n, Query.visits.limit = some n → n.val < 0x8000000000000000) ∧
      ∀ e, Wire.Request.ofReport .visits = .error e → e = .outOfRange 50 :=
  ⟨plan_visits, encodes_iff_of_plan plan_visits⟩

end Connector

def Query.boundless : Query where
  fields := [("sessions", "metric_sessions")]
  predicate := none
  limit := some ⟨0x8000000000000000, by decide⟩
  dates := none
  nodup_fields := by decide

/-- A query for one row more than a request can ask for has a plan, whose request is refused. -/
theorem Connector.boundless_not_encoded :
    ∃ p, ofShop.plan .boundless = .ok p ∧
      Wire.Request.ofReport p.report = .error (.outOfRange 0x8000000000000000) := by
  obtain ⟨p, hp⟩ : ∃ p, ofShop.plan .boundless = .ok p :=
    exists_eq_ok_of_isOk (by decide +kernel)
  have hlimit : p.report.limit = 0x8000000000000000 := limit_of_plan hp
  have hrefused :
      Wire.Int64Field.ofInt p.report.limit = .error (.outOfRange 0x8000000000000000) := by
    rw [hlimit]
    rfl
  exact ⟨p, hp, Wire.Request.ofReport_eq_error_of_limit hrefused⟩

end ReportQuery
