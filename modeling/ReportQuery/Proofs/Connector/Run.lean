import ReportQuery.Connector

namespace ReportQuery.Connector

variable {Sent : Type} {c : Connector} {q : Query} {p : Plan} {e : PlanError}
  {client : ReportClient Sent} {client? : Option (ReportClient Sent)} {trace : Trace}

/-- The trace of a query that is planned, before any call. -/
def planTrace (c : Connector) (q : Query) (trace : Trace) : Trace :=
  { trace with
    property := c.path
    predicate := Predicate.describePart q.predicate
    events := trace.events ++ planEvents q (c.plan q) }

theorem query_of_rejected (hp : c.plan q = .error e) :
    c.query client? q trace =
      ⟨.error (.rejected e), c.planTrace q trace, [], [], planLog (.error e)⟩ := by
  simp only [query, planTrace, hp]

theorem query_of_noClient (hp : c.plan q = .ok p) :
    c.query (none : Option (ReportClient Sent)) q trace =
      ⟨.error .noClient, c.planTrace q trace, [], [], []⟩ := by
  simp only [query, planTrace, hp]

theorem query_of_plan (client : ReportClient Sent) (trace : Trace) (hp : c.plan q = .ok p) :
    ∃ requesting failed,
      c.query (some client) q trace =
        ⟨(conclude p (client p.report).answer).1,
          { c.planTrace q trace with
            events := (c.planTrace q trace).events ++ (conclude p (client p.report).answer).2 },
          [p.report], (client p.report).sent, requesting :: (client p.report).log ++ failed⟩ ∧
      requesting.level ≠ .warning ∧ ∀ r ∈ failed, r.level ≠ .warning := by
  simp only [query, planTrace, hp]
  refine ⟨_, _, rfl, nofun, ?_⟩
  intro r hr
  split at hr
  · rw [List.mem_singleton] at hr
    rw [hr]
    exact nofun
  · cases hr

theorem query_result_of_rejected (hp : c.plan q = .error e) :
    (c.query client? q trace).result = .error (.rejected e) := by
  rw [query_of_rejected hp]

theorem query_sent_of_rejected (hp : c.plan q = .error e) :
    (c.query client? q trace).sent = [] := by
  rw [query_of_rejected hp]

theorem query_result_of_plan (hp : c.plan q = .ok p) :
    (c.query (some client) q trace).result = (conclude p (client p.report).answer).1 := by
  obtain ⟨requesting, failed, hq, -⟩ := query_of_plan client trace hp
  rw [hq]

theorem query_handed_of_plan (hp : c.plan q = .ok p) :
    (c.query (some client) q trace).handed = [p.report] := by
  obtain ⟨requesting, failed, hq, -⟩ := query_of_plan client trace hp
  rw [hq]

theorem query_sent_of_plan (hp : c.plan q = .ok p) :
    (c.query (some client) q trace).sent = (client p.report).sent := by
  obtain ⟨requesting, failed, hq, -⟩ := query_of_plan client trace hp
  rw [hq]

theorem query_predicate :
    (c.query client? q trace).trace.predicate = Predicate.describePart q.predicate := by
  cases hp : c.plan q with
  | error e =>
    rw [query_of_rejected hp]
    rfl
  | ok p =>
    cases client? with
    | none =>
      rw [query_of_noClient hp]
      rfl
    | some client =>
      obtain ⟨requesting, failed, hq, -⟩ := query_of_plan client trace hp
      rw [hq]
      rfl

theorem conclude_ne_rejected {answer : Except ClientFailure (List Row)} :
    (conclude p answer).1 ≠ .error (.rejected e) := by
  intro h
  cases answer with
  | error f =>
    simp only [conclude] at h
    split at h <;> cases h
  | ok rows =>
    simp only [conclude] at h
    split at h <;> cases h

theorem query_rejected_iff :
    (c.query client? q trace).result = .error (.rejected e) ↔ c.plan q = .error e := by
  cases hp : c.plan q with
  | error e' =>
    rw [query_result_of_rejected hp]
    simp
  | ok p =>
    cases client? with
    | none =>
      rw [query_of_noClient hp]
      simp
    | some client =>
      rw [query_result_of_plan hp]
      exact iff_of_false conclude_ne_rejected nofun

end ReportQuery.Connector
