import ReportQuery.Json.Writer
import ReportQuery.Report.Decoding
import ReportQuery.Proofs.Connector.Run
import ReportQuery.Proofs.Connector.Sending

namespace ReportQuery

theorem shown_getD (value : Option String) : shown (some (value.getD "")) = shown value := by
  cases value with
  | none => rfl
  | some s => rfl

theorem shown_shown (value : Option String) : shown (shown value) = shown value := by
  by_cases h : value = some ""
  · rw [h]
    rfl
  · have hv : shown value = value := by
      unfold shown
      split
      · exact absurd rfl h
      · rfl
    exact congrArg shown hv

def Row.seen (r : Row) : Row := ⟨r.dimensionValues.map shown, r.metricValues.map shown⟩

theorem Row.ofWire_toWire (r : Row) : Row.ofWire r.toWire = r.seen := by
  simp only [ofWire, toWire, seen, List.map_map, Function.comp_def, shown_getD]

namespace Selection

variable {s : Selection} {report : Option Report}

theorem valueOf_map_shown (names : List String) (values : List (Option String)) (base : String) :
    valueOf names (values.map shown) base = valueOf names values base := by
  rw [valueOf, valueOf, List.getElem?_map]
  cases values[names.idxOf base]? with
  | none => rfl
  | some value => exact shown_shown value

theorem outputRow_seen (row : Row) : s.outputRow row.seen = s.outputRow row := by
  simp only [outputRow, project, Row.seen, valueOf_map_shown]

theorem shortfalls_map_seen (rows : List Row) (i : Nat) :
    s.shortfalls i (rows.map Row.seen) = s.shortfalls i rows := by
  induction rows generalizing i with
  | nil => rfl
  | cons row rows ih =>
    have hd : row.seen.dimensionValues.length = row.dimensionValues.length := List.length_map _
    have hm : row.seen.metricValues.length = row.metricValues.length := List.length_map _
    rw [List.map_cons, shortfalls, shortfalls, ih, hd, hm]

theorem rowErrors_map_seen (rows : List Row) :
    s.rowErrors (rows.map Row.seen) = s.rowErrors rows := by
  cases rows with
  | nil => rfl
  | cons row rows => exact shortfalls_map_seen (row :: rows) 0

/-- Rows and what is seen of them are mapped alike, and rejected alike. -/
theorem mapRows_map_seen (rows : List Row) :
    s.mapRows (rows.map Row.seen) report = s.mapRows rows report := by
  have hrows : (rows.map Row.seen).map s.outputRow = rows.map s.outputRow := by
    rw [List.map_map]
    exact List.map_congr_left fun row _ => outputRow_seen row
  rw [mapRows, mapRows, rowErrors_map_seen, hrows]

end Selection

namespace Connector

variable {c : Connector} {q : Query} {p : Plan}

theorem conclude_map_seen (p : Plan) (answer : Except ClientFailure (List Row)) :
    conclude p (answer.map (List.map Row.seen)) = conclude p answer := by
  cases answer with
  | error f => rfl
  | ok rows => simp only [Except.map, conclude, Selection.mapRows_map_seen, List.length_map]

theorem exists_ofReport_of_plan (hp : c.plan q = .ok p)
    (hlimit : ∀ n, q.limit = some n → n.val < 0x8000000000000000) :
    ∃ request, Wire.Request.ofReport p.report = .ok request := by
  obtain ⟨hd, hm⟩ := shallow_of_plan hp
  have hrange := (limit_inRange_iff_of_plan hp).mpr hlimit
  obtain ⟨limit, hl⟩ := Wire.Int64Field.exists_ofInt_iff.mpr hrange
  exact ⟨_, Wire.Request.ofReport_eq_ok_of_limit hl hd hm⟩

/-- The service that answers every request with the wire form of one answer. -/
def serving (answer : Except ClientFailure (List Row)) :
    Wire.Request → Except ClientFailure (List Wire.Row) :=
  fun _ => answer.map (List.map Row.toWire)

theorem map_ofWire_serving (answer : Except ClientFailure (List Row)) (request : Wire.Request) :
    (serving answer request).map (List.map Row.ofWire) = answer.map (List.map Row.seen) := by
  cases answer with
  | error f => rfl
  | ok rows => simp only [serving, Except.map, List.map_map, Function.comp_def, Row.ofWire_toWire]

theorem ofService_serving {report : Report} {request : Wire.Request}
    (answer : Except ClientFailure (List Row)) (hr : Wire.Request.ofReport report = .ok request) :
    ReportClient.ofService (serving answer) report =
      ⟨[request], [ReportClient.runRecord report request], answer.map (List.map Row.seen)⟩ := by
  rw [ReportClient.ofService, hr, ← map_ofWire_serving answer request]

/-- With a limit that fits its field, a query has the same result and the same trace whether its
client is that of the service or one in memory with the same answer; and what is sent to the
service is the wire form of what the client in memory gets. -/
theorem query_service_eq_inMemory (c : Connector) (q : Query) (trace : Trace)
    (answer : Except ClientFailure (List Row))
    (hlimit : ∀ n, q.limit = some n → n.val < 0x8000000000000000) :
    let served := c.query (some (.ofService (serving answer))) q trace
    let direct := c.query (some (.inMemory answer)) q trace
    served.result = direct.result ∧ served.trace = direct.trace ∧
      served.sent.map .ok = direct.sent.map Wire.Request.ofReport := by
  intro served direct
  cases hp : c.plan q with
  | error e =>
    have hserved : c.query (some (.ofService (serving answer))) q trace = _ := query_of_rejected hp
    have hdirect : c.query (some (.inMemory answer)) q trace = _ := query_of_rejected hp
    simp only [served, direct, hserved, hdirect, List.map_nil, and_self]
  | ok p =>
    obtain ⟨request, hr⟩ := exists_ofReport_of_plan hp hlimit
    obtain ⟨_, _, hserved, -⟩ := query_of_plan (.ofService (serving answer)) trace hp
    obtain ⟨_, _, hdirect, -⟩ := query_of_plan (.inMemory answer) trace hp
    rw [ofService_serving answer hr, conclude_map_seen] at hserved
    simp only [served, direct, hserved, hdirect]
    refine ⟨rfl, rfl, ?_⟩
    exact congrArg (fun x => [x]) hr.symm

/-- One answer with rows, which are mapped after the request is sent, and one that is a failure. -/
theorem query_service_eq_inMemory_visits :
    let answer : Except ClientFailure (List Row) :=
      .ok [⟨[none, some "shop.example.com"], [some ""]⟩, ⟨[some "US"], [some "12", none]⟩]
    let served := ofShop.query (some (.ofService (serving answer))) .visits (.fresh "trace")
    let direct := ofShop.query (some (.inMemory answer)) .visits (.fresh "trace")
    let failed := ofShop.query
      (some (.ofService (serving (.error ⟨.tooManyRequests, "quota", none⟩)))) .visits
      (.fresh "trace")
    (∀ n, Query.visits.limit = some n → n.val < 0x8000000000000000) ∧
    (served.result = direct.result ∧ served.trace = direct.trace ∧
      served.sent.map .ok = direct.sent.map Wire.Request.ofReport) ∧
    direct.result = .ok
      [[("country", none), ("land", none), ("visits", none)],
        [("country", some "US"), ("land", some "US"), ("visits", some "12")]] ∧
    direct.trace.events.map (fun e => (e.type, (Json.obj e.data).line)) =
      [("predicate_parsed",
          "\x7b\"dimension_filters\": 1, \"metric_filters\": 2, \"errors\": 0\x7d"),
        ("report_assembled",
          "\x7b\"dimensions\": [\"country\", \"hostName\"], \"metrics\": [\"sessions\"], " ++
            "\"date_range\": \"2024-01-31..2024-02-29\", \"limit\": 50\x7d"),
        ("report_received", "\x7b\"rows\": 2\x7d"), ("rows_mapped", "\x7b\"rows\": 2\x7d")] ∧
    direct.sent = [.visits] ∧ served.sent.map Wire.Request.toReport? = [some .visits] ∧
    failed.result = .error (.service ⟨.tooManyRequests, "quota", none⟩ "properties/123456789") ∧
    failed.trace.eventTypes = ["predicate_parsed", "report_assembled", "report_failed"] := by
  intro answer served direct failed
  have hlimit : ∀ n, Query.visits.limit = some n → n.val < 0x8000000000000000 := by
    intro n hn
    cases hn
    decide
  have hfailed := query_service_eq_inMemory ofShop .visits (.fresh "trace")
    (.error ⟨.tooManyRequests, "quota", none⟩) hlimit
  refine ⟨hlimit, query_service_eq_inMemory ofShop .visits (.fresh "trace") answer hlimit,
    eq_ok_of_toOption (by decide +kernel), by decide +kernel, query_sent_of_plan plan_visits,
    by decide +kernel, ?_, by decide +kernel⟩
  rw [hfailed.1, query_result_of_plan plan_visits]
  rfl

end Connector

end ReportQuery
