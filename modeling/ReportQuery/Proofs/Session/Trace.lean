import ReportQuery.Proofs.Report.Row
import ReportQuery.Proofs.Session.Scope

namespace ReportQuery

/-- The words of event types that a query can add to a trace. -/
def Trace.words : List (List String) :=
  [["predicate_parsed"], ["predicate_parsed", "translation_failed"],
    ["predicate_parsed", "report_assembled"],
    ["predicate_parsed", "report_assembled", "report_failed"],
    ["predicate_parsed", "report_assembled", "report_received"],
    ["predicate_parsed", "report_assembled", "report_received", "rows_mapped"]]

namespace Connector

variable {Sent : Type} {c : Connector} {q : Query} {p : Plan} {e : PlanError}

def Run.Answered (run : Run Sent) (client : ReportClient Sent)
    (answer : Except ClientFailure (List Row)) : Prop :=
  ∃ report, run.handed = [report] ∧ (client report).answer = answer

/-- New events that tell how a run of a query went. -/
structure Run.Follows (run : Run Sent) (planned : Except PlanError Plan)
    (client : ReportClient Sent) (new : List Event) : Prop where
  word : new.map Event.type ∈ Trace.words
  rejected : "translation_failed" ∈ new.map Event.type ↔ ∃ list, planned = .error (.defects list)
  assembled : "report_assembled" ∈ new.map Event.type ↔ ∃ p, planned = .ok p
  failed : "report_failed" ∈ new.map Event.type ↔
    ∃ f property, run.result = .error (.service f property)
  service : (∃ f property, run.result = .error (.service f property)) ↔
    ∃ f, run.Answered client (.error f) ∧ f.kind.isOfService
  received : "report_received" ∈ new.map Event.type ↔ ∃ rows, run.Answered client (.ok rows)
  mapped : "rows_mapped" ∈ new.map Event.type ↔ ∃ output, run.result = .ok output
  counts : ∀ event ∈ new, event.type ∈ ["report_received", "rows_mapped"] →
    ∃ rows, run.Answered client (.ok rows) ∧ event.data = [("rows", .nat rows.length)]
  unmapped : (new.map Event.type).getLast? = some "report_received" ↔
    ∃ bad, run.result = .error (.badResponse bad)
  foreign : ∀ f, run.Answered client (.error f) → ¬ f.kind.isOfService →
    run.result = .error (.client f) ∧
      (new.map Event.type).getLast? = some "report_assembled"

theorem follows_of_rejected (client : ReportClient Sent) (trace : Trace)
    (hp : c.plan q = .error e) :
    (c.query (some client) q trace).Follows (c.plan q) client (planEvents q (c.plan q)) := by
  rw [query_of_rejected hp, hp]
  cases e with
  | defects list => constructor <;> simp [Trace.words, Run.Answered, planEvents, Event.type]
  | _ => constructor <;> simp [Trace.words, Run.Answered, planEvents, Event.type]

theorem follows_of_plan (client : ReportClient Sent) (trace : Trace) (hp : c.plan q = .ok p) :
    (c.query (some client) q trace).Follows (c.plan q) client
      (planEvents q (c.plan q) ++ (conclude p (client p.report).answer).2) := by
  obtain ⟨requesting, failed, hq, -⟩ := query_of_plan client trace hp
  rw [hq, hp]
  cases ha : (client p.report).answer with
  | error f =>
    cases hs : f.kind.isOfService with
    | true =>
      simp only [conclude, hs, if_true]
      constructor <;> simp [Trace.words, Run.Answered, planEvents, Event.type, ha, hs]
    | false =>
      simp only [conclude, hs]
      constructor <;> simp [Trace.words, Run.Answered, planEvents, Event.type, ha, hs]
  | ok rows =>
    cases hm : p.selection.mapRows rows (some p.report) with
    | error e =>
      simp only [conclude, hm]
      constructor <;> simp [Trace.words, Run.Answered, planEvents, Event.type, Event.data, ha]
    | ok mapped =>
      obtain ⟨-, -, rfl⟩ := Selection.mapRows_eq_ok_iff.mp hm
      simp only [conclude, hm]
      constructor <;> simp [Trace.words, Run.Answered, planEvents, Event.type, Event.data, ha]

theorem query_follows (c : Connector) (client : ReportClient Sent) (q : Query) (trace : Trace) :
    ∃ new, (c.query (some client) q trace).trace.events = trace.events ++ new ∧
      (c.query (some client) q trace).Follows (c.plan q) client new := by
  cases hp : c.plan q with
  | error e =>
    have hfollows := follows_of_rejected client trace hp
    rw [hp] at hfollows
    refine ⟨_, ?_, hfollows⟩
    rw [query_of_rejected hp, planTrace, hp]
  | ok p =>
    have hfollows := follows_of_plan client trace hp
    rw [hp] at hfollows
    refine ⟨_, ?_, hfollows⟩
    obtain ⟨requesting, failed, hq, -⟩ := query_of_plan client trace hp
    rw [hq, planTrace, hp]
    exact List.append_assoc _ _ _

end Connector

namespace Session

variable {s : Session}

/-- What a step adds to the trace: for a query the events of its run, for all else nothing. -/
def Follows (s : Session) (new : List Event) : Step → Prop
  | .query q =>
    let client := ReportClient.inMemory s.clientAnswer
    let run := s.connector.query (some client) q s.trace
    (s.step (.query q)).2 = .queried run.result ∧
      (s.step (.query q)).1.sent = s.sent ++ run.handed ∧
      run.Follows (s.connector.plan q) client new
  | _ => new = []

theorem step_follows (s : Session) (step : Step) :
    ∃ new, (s.step step).1.trace.events = s.trace.events ++ new ∧ s.Follows new step := by
  cases step with
  | query q =>
    let client := ReportClient.inMemory s.clientAnswer
    obtain ⟨new, hevents, hfollows⟩ := s.connector.query_follows client q s.trace
    refine ⟨new, hevents, rfl, ?_, hfollows⟩
    change s.sent ++ (s.connector.query (some client) q s.trace).sent = _
    cases hp : s.connector.plan q with
    | error e => rw [Connector.query_of_rejected hp]
    | ok p =>
      obtain ⟨requesting, failed, hq, -⟩ := Connector.query_of_plan client s.trace hp
      rw [hq]
      rfl
  | _ => exact ⟨[], (List.append_nil s.trace.events).symm, rfl⟩

theorem prefix_events_run (s : Session) (steps : List Step) :
    s.trace.events <+: (s.run steps).1.trace.events := by
  induction steps generalizing s with
  | nil => exact List.prefix_refl _
  | cons step steps ih =>
    obtain ⟨new, hevents, -⟩ := step_follows s step
    have hstep : s.trace.events <+: (s.step step).1.trace.events :=
      hevents ▸ List.prefix_append _ _
    exact hstep.trans (ih (s.step step).1)

/-- Under any client a query adds to the trace one word of events, which tells how it went. In a
session no other step adds anything, and what a step has added is not changed by those after it. -/
theorem run_follows (c : Connector) :
    (∀ {Sent : Type} (client : ReportClient Sent) (q : Query) (trace : Trace), ∃ new,
      (c.query (some client) q trace).trace.events = trace.events ++ new ∧
        (c.query (some client) q trace).Follows (c.plan q) client new) ∧
    ∀ (traceId : String) (before : List Step) (step : Step) (after : List Step),
      let s := ((start c traceId).run before).1
      let next := (s.step step).1
      (∃ new, next.trace.events = s.trace.events ++ new ∧ s.Follows new step) ∧
        next.trace.events <+: (next.run after).1.trace.events := by
  refine ⟨c.query_follows, ?_⟩
  intro traceId before step after s next
  exact ⟨step_follows s step, prefix_events_run next after⟩

example :
    let failure : ClientFailure := ⟨.tooManyRequests, "quota", none⟩
    let row : Row := ⟨[some "Chad", some "shop.example.com"], [some "7"]⟩
    let steps : List Step :=
      [.failure failure, .query .visits, .rows [], .query .visits, .explain .visits, .rows [row],
        .query .visits]
    ((start Connector.ofShop "trace").run steps).1.trace.eventTypes =
      ["predicate_parsed", "report_assembled", "report_failed"] ++
      ["predicate_parsed", "report_assembled", "report_received"] ++
      ["predicate_parsed", "report_assembled", "report_received", "rows_mapped"] := by
  decide +kernel

end Session

end ReportQuery
