import ReportQuery.Proofs.Connector.Plan
import ReportQuery.Proofs.Session.Scope

namespace ReportQuery.Session

/-- The requests with which a step reaches the client: that of its plan for a query that has one,
none for all else. -/
def requested (c : Connector) : Step → List Report
  | .query q =>
    match c.plan q with
    | .ok p => [p.report]
    | .error _ => []
  | _ => []

/-- The requests of a list of steps, each under the scope in force when its turn comes. -/
def requests (c : Connector) : List Step → List Report
  | [] => []
  | step :: steps =>
    requested c step ++ requests ⟨c.propertyId, scopeAfter c.scope [step]⟩ steps

variable {s : Session}

theorem step_sent (s : Session) (step : Step) :
    (s.step step).1.sent = s.sent ++ requested s.connector step := by
  cases step with
  | query q =>
    change s.sent ++ _ = _
    cases hp : s.connector.plan q with
    | error e => rw [Connector.query_sent_of_rejected hp, requested, hp]
    | ok p =>
      rw [Connector.query_sent_of_plan hp, requested, hp]
      rfl
  | _ => exact (List.append_nil s.sent).symm

theorem run_sent (s : Session) (steps : List Step) :
    (s.run steps).1.sent = s.sent ++ requests s.connector steps := by
  induction steps generalizing s with
  | nil => exact (List.append_nil s.sent).symm
  | cons step steps ih =>
    change ((s.step step).1.run steps).1.sent = _
    rw [ih, step_sent, step_connector, requests, List.append_assoc]

/-- How a session answers one query when asked to plan it, to explain it and to run it. -/
inductive Agrees (s : Session) (q : Query) : Prop where
  /-- All three fail with one error, and nothing is sent. -/
  | rejected (e : PlanError) :
    (s.step (.plan q)).2 = .planned (.error e) →
      (s.step (.explain q)).2 = .explained (.error e) →
      (s.step (.query q)).2 = .queried (.error (.rejected e)) →
      (s.step (.query q)).1.sent = s.sent → Agrees s q
  /-- One request is planned, dumped by the explanation and sent by the run, and the explanation
  words the predicate as the trace of the run does. -/
  | shown (report : Report) (text : String) :
    (s.step (.plan q)).2 = .planned (.ok report) →
      (s.step (.explain q)).2 = .explained
        (.ok (.obj [("predicate", .str text), ("report_request", report.toJson)])) →
      (s.step (.query q)).1.trace.predicate = text →
      (∀ e, (s.step (.query q)).2 ≠ .queried (.error (.rejected e))) →
      (s.step (.query q)).1.sent = s.sent ++ [report] → Agrees s q

theorem agrees (s : Session) (q : Query) : s.Agrees q := by
  have hsent := step_sent s (.query q)
  cases hp : s.connector.plan q with
  | error e =>
    rw [requested, hp, List.append_nil] at hsent
    refine .rejected e ?_ ?_ ?_ hsent
    · exact congrArg (fun r => Answer.planned (r.map (·.report))) hp
    · exact congrArg Answer.explained (Connector.explain_eq_error_iff.mpr hp)
    · exact congrArg Answer.queried (Connector.query_result_of_rejected hp)
  | ok p =>
    rw [requested, hp] at hsent
    refine .shown p.report (Predicate.describePart q.predicate) ?_ ?_ ?_ ?_ hsent
    · exact congrArg (fun r => Answer.planned (r.map (·.report))) hp
    · exact congrArg Answer.explained (Connector.explain_eq_ok_iff.mpr ⟨p, hp, rfl⟩)
    · exact Connector.query_predicate
    · intro e h
      have hr := Connector.query_rejected_iff.mp (Answer.queried.inj h)
      rw [hp] at hr
      cases hr

/-- Whatever a session has done, what it has sent are the requests of its query steps that have a
plan; and after any number of its steps the three ways to ask for a query agree. -/
theorem run_requests (c : Connector) (traceId : String) (steps : List Step) :
    ((start c traceId).run steps).1.sent = requests c steps ∧
      ∀ n q, ((start c traceId).run (steps.take n)).1.Agrees q := by
  refine ⟨run_sent (start c traceId) steps, ?_⟩
  intro n q
  exact agrees _ q

end ReportQuery.Session
