import ReportQuery.Proofs.Connector.Run
import ReportQuery.Proofs.Connector.Supported

namespace ReportQuery

/-- The errors of a failure as a record lists them: the headlines of its messages, or, where it has
none, its own message. -/
def Failure.listed (f : Failure) : List String :=
  if f.messages.isEmpty then [f.message] else f.messages.map Message.headline

namespace Connector

namespace Run

variable {Sent : Type} {run : Run Sent}

/-- The failure by which a run rejects its query as a bad one, if it does. -/
def rejection? (run : Run Sent) : Option Failure :=
  match run.result with
  | .ok _ => none
  | .error e => e.failure?.filter (·.category.isBadQuery)

def warnings (run : Run Sent) : List Log.Record :=
  run.log.filter fun r => r.level = .warning ∧ r.logger = Log.loggerName "connector"

/-- A failure stands last in the trace, with its errors, and is logged as one warning. -/
structure Records (run : Run Sent) (failure : Failure) : Prop where
  event : run.trace.events.getLast? = some (.planFailed failure.listed)
  warning : run.warnings.length = 1

/-- No event and no warning tells of a rejected query. -/
structure RecordsNothing (run : Run Sent) : Prop where
  event : "translation_failed" ∉ run.trace.eventTypes
  warning : run.warnings = []

/-- Whether a run has the record of its rejection, or none where it has no rejection. -/
def Audited (run : Run Sent) : Prop :=
  match run.rejection? with
  | some failure => run.Records failure
  | none => run.RecordsNothing

theorem audited_of_records {failure : Failure} (h : run.rejection? = some failure)
    (hr : run.Records failure) : run.Audited := by
  rw [Audited, h]
  exact hr

theorem audited_of_recordsNothing (h : run.rejection? = none) (hr : run.RecordsNothing) :
    run.Audited := by
  rw [Audited, h]
  exact hr

end Run

variable {Sent : Type} {c : Connector} {q : Query} {p : Plan}
  {client? : Option (ReportClient Sent)} {traceId : String}

theorem rejection?_of_rejected {e : PlanError} {trace : Trace} (hp : c.plan q = .error e) :
    (c.query client? q trace).rejection? = e.failure?.filter (·.category.isBadQuery) := by
  rw [Run.rejection?, query_result_of_rejected hp]
  rfl

theorem rejection?_of_plan {trace : Trace} (hp : c.plan q = .ok p) :
    (c.query client? q trace).rejection? = none := by
  rw [Run.rejection?]
  cases hr : (c.query client? q trace).result with
  | ok rows => rfl
  | error e =>
    cases e with
    | rejected e =>
      rw [query_rejected_iff, hp] at hr
      cases hr
    | _ => rfl

theorem records_of_defects {list : List Defect} (hp : c.plan q = .error (.defects list)) :
    (c.query client? q (.fresh traceId)).Records (.ofMessages (list.map Defect.message)) := by
  obtain ⟨-, -, hne, -⟩ := plan_defects_iff.mp hp
  have hlisted : (Failure.ofMessages (list.map Defect.message)).listed =
      list.map fun d => d.message.headline := by
    have hmessages : (Failure.ofMessages (list.map Defect.message)).messages =
        list.map Defect.message := rfl
    rw [Failure.listed, hmessages, if_neg (by simpa using hne), List.map_map]
    rfl
  refine ⟨?_, ?_⟩
  · rw [query_of_rejected hp, hlisted, planTrace, hp]
    rfl
  · rw [Run.warnings, query_of_rejected hp]
    rfl

theorem not_mem_eventTypes_planTrace (h : ∀ list, c.plan q ≠ .error (.defects list)) :
    "translation_failed" ∉ (c.planTrace q (.fresh traceId)).eventTypes := by
  rw [Trace.eventTypes, planTrace]
  cases hp : c.plan q with
  | ok p => simp [planEvents, Trace.fresh, Event.type]
  | error e =>
    cases e with
    | defects list => exact absurd hp (h list)
    | _ => simp [planEvents, Trace.fresh, Event.type]

theorem recordsNothing_of_error {e : PlanError} (hp : c.plan q = .error e)
    (he : ∀ list, e ≠ .defects list) :
    (c.query client? q (.fresh traceId)).RecordsNothing := by
  have hplan : ∀ list, c.plan q ≠ .error (.defects list) := by
    intro list h
    rw [hp] at h
    exact he list (Except.error.inj h)
  have hlog : planLog (.error e) = [] := by
    cases e with
    | defects list => exact absurd rfl (he list)
    | _ => rfl
  rw [query_of_rejected hp, hlog]
  exact ⟨not_mem_eventTypes_planTrace hplan, rfl⟩

theorem type_conclude_ne {answer : Except ClientFailure (List Row)} {event : Event}
    (h : event ∈ (conclude p answer).2) : event.type ≠ "translation_failed" := by
  cases answer with
  | error f =>
    simp only [conclude] at h
    split at h
    · rw [List.mem_singleton] at h
      simp [h, Event.type]
    · cases h
  | ok rows =>
    simp only [conclude] at h
    split at h
    · simp only [List.mem_cons, List.not_mem_nil, or_false] at h
      rcases h with rfl | rfl
      · simp [Event.type]
      · simp [Event.type]
    · rw [List.mem_singleton] at h
      simp [h, Event.type]

/-- Whether a client writes no records under the name of the connector. -/
def Unmixed (client? : Option (ReportClient Sent)) : Prop :=
  ∀ client, client? = some client → ∀ report, ∀ r ∈ (client report).log,
    r.logger ≠ Log.loggerName "connector"

theorem recordsNothing_of_plan (hclient : Unmixed client?) (hp : c.plan q = .ok p) :
    (c.query client? q (.fresh traceId)).RecordsNothing := by
  have hplan : ∀ list, c.plan q ≠ .error (.defects list) := by
    intro list h
    rw [hp] at h
    cases h
  cases client? with
  | none =>
    rw [query_of_noClient hp]
    exact ⟨not_mem_eventTypes_planTrace hplan, rfl⟩
  | some client =>
    obtain ⟨requesting, failed, hq, hrequesting, hfailed⟩ :=
      query_of_plan client (.fresh traceId) hp
    rw [hq]
    refine ⟨?_, ?_⟩
    · change _ ∉ List.map Event.type (_ ++ _)
      rw [List.map_append, List.mem_append, not_or]
      refine ⟨not_mem_eventTypes_planTrace hplan, ?_⟩
      intro h
      obtain ⟨event, he, ht⟩ := List.mem_map.mp h
      exact type_conclude_ne he ht
    · rw [Run.warnings, List.filter_eq_nil_iff]
      intro r hr h
      obtain ⟨hlevel, hlogger⟩ := of_decide_eq_true h
      simp only [List.mem_append, List.mem_cons] at hr
      rcases hr with (rfl | hr) | hr
      · exact hrequesting hlevel
      · exact hclient client rfl p.report r hr hlogger
      · exact hfailed r hr hlevel

theorem not_audited_of_unsupportedDate {date : UnsupportedDate}
    (hp : c.plan q = .error (.unsupportedDate date)) :
    ¬ (c.query client? q (.fresh traceId)).Audited := by
  have hr : (c.query client? q (.fresh traceId)).rejection? = some (.ofUnsupportedDate date) := by
    rw [rejection?_of_rejected hp]
    rfl
  rw [Run.Audited, hr]
  intro h
  have hevent := h.event
  rw [query_of_rejected hp, planTrace, hp] at hevent
  cases hevent

theorem audited_of_ne_unsupportedDate (hclient : Unmixed client?)
    (h : ∀ date, c.plan q ≠ .error (.unsupportedDate date)) :
    (c.query client? q (.fresh traceId)).Audited := by
  cases hp : c.plan q with
  | ok p =>
    exact Run.audited_of_recordsNothing (rejection?_of_plan hp)
      (recordsNothing_of_plan hclient hp)
  | error e =>
    cases e with
    | defects list =>
      exact Run.audited_of_records (rejection?_of_rejected hp) (records_of_defects hp)
    | unsupportedDate date => exact absurd hp (h date)
    | conversion conversion =>
      exact Run.audited_of_recordsNothing (rejection?_of_rejected hp)
        (recordsNothing_of_error hp nofun)

/-- A run is audited exactly unless its query is sound but for the dates; then the query is rejected
and nothing is recorded of it. -/
theorem query_audited_iff (c : Connector) (client? : Option (ReportClient Sent)) (q : Query)
    (traceId : String) (hclient : Unmixed client?) :
    let run := c.query client? q (.fresh traceId)
    (run.Audited ↔
      ((∀ p, q.predicate = some p → SupportedPredicate p) ∧
        (∀ field ∈ q.fields, SupportedColumn field.2) → SupportedDates q.dates)) ∧
    (¬ run.Audited →
      (∃ date, run.rejection? = some (.ofUnsupportedDate date)) ∧ run.RecordsNothing) := by
  intro run
  have hdates := plan_unsupportedDate_iff (c := c) (q := q)
  by_cases h : ∃ date, c.plan q = .error (.unsupportedDate date)
  · obtain ⟨hrest, hunsupported⟩ := hdates.mp h
    obtain ⟨date, hp⟩ := h
    have hnot : ¬ run.Audited := not_audited_of_unsupportedDate hp
    refine ⟨iff_of_false hnot (fun himp => hunsupported (himp hrest)), fun _ => ⟨⟨date, ?_⟩, ?_⟩⟩
    · exact rejection?_of_rejected hp
    · exact recordsNothing_of_error hp nofun
  · have haudited : run.Audited :=
      audited_of_ne_unsupportedDate hclient (fun date hp => h ⟨date, hp⟩)
    refine ⟨iff_of_true haudited ?_, fun hnot => absurd haudited hnot⟩
    intro hrest
    by_contra hunsupported
    exact h (hdates.mpr ⟨hrest, hunsupported⟩)

theorem unmixed_ofService (service : Wire.Request → Except ClientFailure (List Wire.Row)) :
    Unmixed (some (ReportClient.ofService service)) := by
  intro client hc report r hr
  cases hc
  rw [ReportClient.ofService] at hr
  split at hr
  · cases hr
  · rw [List.mem_singleton] at hr
    rw [hr]
    change Log.loggerName "client" ≠ Log.loggerName "connector"
    decide

theorem query_audited_iff_visits :
    let client? := some (ReportClient.ofService fun _ => .ok [])
    let run := ofShop.query client? .visits (.fresh "trace")
    Unmixed client? ∧
    (run.Audited ↔
      ((∀ p, Query.visits.predicate = some p → SupportedPredicate p) ∧
        (∀ field ∈ Query.visits.fields, SupportedColumn field.2) →
          SupportedDates Query.visits.dates)) ∧
    (¬ run.Audited →
      (∃ date, run.rejection? = some (.ofUnsupportedDate date)) ∧ run.RecordsNothing) :=
  ⟨unmixed_ofService _, query_audited_iff ofShop _ .visits "trace" (unmixed_ofService _)⟩

end Connector

def Query.sinceYesterday : Query where
  fields := [("users", "metric_users")]
  predicate := none
  limit := none
  dates := some ⟨"literal", [("start_date", .str "yesterday"), ("end_date", .str "2024-01-31")]⟩
  nodup_fields := by decide

/-- A query whose only fault is its first day is rejected without any record of it. -/
theorem Connector.sinceYesterday_not_audited :
    let run := ofShop.query (some (.inMemory (.ok []))) .sinceYesterday (.fresh "trace")
    run.rejection?.isSome ∧ ¬ run.Audited ∧ run.RecordsNothing := by
  intro run
  have hresolve : DateRange.resolve Query.sinceYesterday.dates =
      .error ⟨.str "yesterday"⟩ := by rfl
  have hprepared : ∃ parts, ofShop.prepare .sinceYesterday = .ok parts := by
    refine exists_prepare_iff.mpr ⟨nofun, ?_⟩
    intro field hfield
    rw [List.mem_singleton.mp hfield]
    exact ⟨"users", .inr rfl⟩
  have hp : ofShop.plan .sinceYesterday = .error (.unsupportedDate ⟨.str "yesterday"⟩) :=
    plan_eq_error_iff.mpr (.inr ⟨hprepared, _, hresolve, rfl⟩)
  refine ⟨?_, not_audited_of_unsupportedDate hp, recordsNothing_of_error hp nofun⟩
  rw [rejection?_of_rejected hp]
  rfl

end ReportQuery
