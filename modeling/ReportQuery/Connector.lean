import ReportQuery.Client
import ReportQuery.Failure
import ReportQuery.Predicate.Description
import ReportQuery.Trace

namespace ReportQuery

structure Connector where
  propertyId : String
  scope : Scope

inductive PlanError where
  | defects (list : List Defect)
  | unsupportedDate (e : UnsupportedDate)
  | conversion (e : ConversionError)

inductive QueryError where
  | rejected (e : PlanError)
  | noClient
  | service (failure : ClientFailure) (property : String)
  | badResponse (e : BadResponse)
  /-- A failure of the client that is not one of the service. -/
  | client (failure : ClientFailure)

namespace PlanError

/-- How an error is reported; a conversion that fails is no reported failure. -/
def failure? : PlanError → Option Failure
  | defects list => some (.ofMessages (list.map Defect.message))
  | unsupportedDate e => some (.ofUnsupportedDate e)
  | conversion _ => none

end PlanError

namespace QueryError

def failure? : QueryError → Option Failure
  | rejected e => e.failure?
  | noClient => some (.of .connector "No report client configured" [])
  | service f property =>
    some (.of .service ("GA4 report call failed: " ++ f.text) [("property", .str property)])
  | badResponse e => some (.of .unprocessable e.message e.details)
  | client _ => none

end QueryError

structure Plan where
  report : Report
  selection : Selection
  deriving DecidableEq

namespace Connector

def path (c : Connector) : String := Report.pathOf c.propertyId

/-- The defects of a query and, where there are none, the parts of its report. -/
def prepare (c : Connector) (q : Query) :
    Except PlanError (ReportFilters × Selection) :=
  match (Predicate.filtersOfPart q.predicate).build c.scope with
  | .error e => .error (.conversion e)
  | .ok built =>
    let selected := Selection.ofFields q.fields
    match built.defects ++ selected.defects, built.data, selected.data with
    | [], some filters, some selection => .ok (filters, selection)
    | defects, _, _ => .error (.defects defects)

def plan (c : Connector) (q : Query) : Except PlanError Plan := do
  let (filters, selection) ← c.prepare q
  match Report.assemble q filters selection c.propertyId c.scope with
  | .ok report => pure ⟨report, selection⟩
  | .error e => throw (.unsupportedDate e)

def explain (c : Connector) (q : Query) : Except PlanError Json := do
  let p ← c.plan q
  pure (.obj [("predicate", .str (Predicate.describePart q.predicate)),
    ("report_request", p.report.toJson)])

/-- The events of planning. Only collected defects are recorded as its failure. -/
def planEvents (q : Query) (result : Except PlanError Plan) : List Event :=
  let lists := Predicate.filtersOfPart q.predicate
  .predicateParsed lists.dimension.length lists.metric.length lists.defects.length ::
    match result with
    | .ok p =>
      [.reportAssembled p.report.dimensionNames p.report.metricNames
        (p.report.dates.first ++ ".." ++ p.report.dates.last) p.report.limit]
    | .error (.defects list) => [.planFailed (list.map fun d => d.message.headline)]
    | .error _ => []

def planLog (result : Except PlanError Plan) : List Log.Record :=
  match result with
  | .error (.defects list) =>
    [⟨.warning, Log.loggerName "connector",
      "Query translation failed with " ++ toString list.length ++ " error(s): " ++
        listLiteral (list.map fun d => d.message.headline)⟩]
  | _ => []

/-- What a query does: its result, the trace after it, the requests handed to the client, what the
client sent for them, and the log. -/
structure Run (Sent : Type) where
  result : Except QueryError (List OutputRow)
  trace : Trace
  handed : List Report
  sent : List Sent
  log : List Log.Record

def conclude (p : Plan) (answer : Except ClientFailure (List Row)) :
    Except QueryError (List OutputRow) × List Event :=
  match answer with
  | .error f =>
    if f.kind.isOfService then (.error (.service f p.report.path), [.reportFailed f.text])
    else (.error (.client f), [])
  | .ok rows =>
    match p.selection.mapRows rows (some p.report) with
    | .ok mapped => (.ok mapped, [.reportReceived rows.length, .rowsMapped mapped.length])
    | .error e => (.error (.badResponse e), [.reportReceived rows.length])

private def record (level : Log.Level) (id text : String) : Log.Record :=
  ⟨level, Log.loggerName "connector", "Query " ++ id ++ ": " ++ text⟩

def query {Sent : Type} (c : Connector) (client : Option (ReportClient Sent)) (q : Query)
    (trace : Trace) : Run Sent :=
  let planned := c.plan q
  let begun : Trace :=
    { trace with
      property := c.path
      predicate := Predicate.describePart q.predicate
      events := trace.events ++ planEvents q planned }
  match planned, client with
  | .error e, _ => ⟨.error (.rejected e), begun, [], [], planLog planned⟩
  | .ok _, none => ⟨.error .noClient, begun, [], [], []⟩
  | .ok p, some client =>
    let call := client p.report
    let (result, events) := conclude p call.answer
    let requesting := record .info trace.id ("requesting " ++
      listLiteral p.report.dimensionNames ++ " / " ++ listLiteral p.report.metricNames)
    let failed := match result with
      | .error (.service f _) =>
        [record .error trace.id ("GA4 report call failed: " ++ f.text)]
      | _ => []
    ⟨result, { begun with events := begun.events ++ events }, [p.report], call.sent,
      requesting :: call.log ++ failed⟩

end Connector

end ReportQuery
