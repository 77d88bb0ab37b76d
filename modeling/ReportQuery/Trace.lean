import ReportQuery.Json.Display

namespace ReportQuery

inductive Event where
  | predicateParsed (dimensionFilters metricFilters errors : Nat)
  | planFailed (errors : List String)
  | reportAssembled (dimensions metrics : List String) (dateRange : String) (limit : Int)
  | reportFailed (error : String)
  | reportReceived (rows : Nat)
  | rowsMapped (rows : Nat)
  /-- An event of a host. -/
  | custom (type : String) (data : Entries Json)

namespace Event

def type : Event → String
  | predicateParsed .. => "predicate_parsed"
  | planFailed _ => "translation_failed"
  | reportAssembled .. => "report_assembled"
  | reportFailed _ => "report_failed"
  | reportReceived _ => "report_received"
  | rowsMapped _ => "rows_mapped"
  | custom type _ => type

def data : Event → Entries Json
  | predicateParsed dimensionFilters metricFilters errors =>
    [("dimension_filters", .nat dimensionFilters), ("metric_filters", .nat metricFilters),
      ("errors", .nat errors)]
  | planFailed errors => [("errors", .strings errors)]
  | reportAssembled dimensions metrics dateRange limit =>
    [("dimensions", .strings dimensions), ("metrics", .strings metrics),
      ("date_range", .str dateRange), ("limit", .int limit)]
  | reportFailed error => [("error", .str error)]
  | reportReceived rows => [("rows", .nat rows)]
  | rowsMapped rows => [("rows", .nat rows)]
  | custom _ data => data

end Event

structure Trace where
  id : String
  property : String
  predicate : String
  events : List Event

namespace Trace

def fresh (id : String) : Trace := ⟨id, "", "", []⟩

def add (t : Trace) (e : Event) : Trace := { t with events := t.events ++ [e] }

inductive RecordError where
  /-- Data under a name that recording an event needs for itself. -/
  | taken (name : String)
  /-- Data under a name that stamping an event with its time needs. -/
  | takenByStamp (name : String)
  deriving DecidableEq

def RecordError.message : RecordError → String
  | taken name => "QueryTrace.add_event() got multiple values for argument " ++ Text.quoted name
  | takenByStamp name => "TraceEvent.now() got multiple values for argument " ++ Text.quoted name

/-- Adds an event of a host, unless its data has a name that is not free. -/
def record (t : Trace) (type : String) (data : Entries Json) : Except RecordError Trace :=
  match data.keys.find? (["self", "event_type"].contains ·), data.keys.contains "cls" with
  | some name, _ => .error (.taken name)
  | none, true => .error (.takenByStamp "cls")
  | none, false => .ok (t.add (.custom type data))

def eventTypes (t : Trace) : List String := t.events.map Event.type

private def rule (c : Char) : String := String.ofList (List.replicate 80 c)

private def orElse (s other : String) : String := if s = "" then other else s

/-- The lines of an event; `time` stands for the moment at which it was recorded. -/
def eventLines (time : String) (e : Event) : List String :=
  ("[" ++ time ++ "] " ++ e.type) ::
    e.data.map fun (key, value) => "  " ++ key ++ ": " ++ value.display

def summary (t : Trace) (time : String) : String :=
  let lines :=
    ["", rule '=', "TRACE: " ++ t.id, "Property: " ++ orElse t.property "-",
      "Predicate: " ++ orElse t.predicate "(none)", rule '-'] ++
    t.events.flatMap (eventLines time) ++ [rule '=', ""]
  String.join (lines.map (· ++ "\n"))

end Trace

end ReportQuery
