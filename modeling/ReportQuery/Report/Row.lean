import ReportQuery.Report
import ReportQuery.Report.Wire

namespace ReportQuery

structure Row where
  dimensionValues : List (Option String)
  metricValues : List (Option String)

/-- A value as the reader of a row sees it: an empty one is absent. -/
def shown : Option String → Option String
  | some "" => none
  | value => value

def Row.ofWire (r : Wire.Row) : Row :=
  ⟨r.dimensionValues.map fun v => shown (some v), r.metricValues.map fun v => shown (some v)⟩

/-- The response to a row: an absent value is an empty one. -/
def Row.toWire (r : Row) : Wire.Row :=
  ⟨r.dimensionValues.map (·.getD ""), r.metricValues.map (·.getD "")⟩

abbrev OutputRow := Entries (Option String)

inductive RowError where
  | noRows (dimensions metrics : List String)
  | missingDimensions (row expected actual : Nat)
  | missingMetrics (row expected actual : Nat)
  deriving DecidableEq

def RowError.message : RowError → String
  | noRows dimensions metrics =>
    "No rows in GA4 response for dimensions " ++ listLiteral dimensions ++ " and metrics " ++
      listLiteral metrics
  | missingDimensions row expected actual =>
    "Row " ++ toString row ++ " missing dimensions: expected " ++ toString expected ++ ", got " ++
      toString actual
  | missingMetrics row expected actual =>
    "Row " ++ toString row ++ " missing metrics: expected " ++ toString expected ++ ", got " ++
      toString actual

/-- A response whose rows do not give what was selected. -/
structure BadResponse where
  errors : List RowError
  selection : Selection
  report : Option Report

namespace BadResponse

def message (e : BadResponse) : String :=
  "GA4 response validation failed: " ++ "; ".intercalate (e.errors.map RowError.message)

def suggestion : String :=
  "Try widening the date range, removing filters, or checking that the " ++
    "requested dimensions and metrics are compatible and have data for this property."

def isEmpty (e : BadResponse) : Bool :=
  e.errors.any fun
    | .noRows .. => true
    | _ => false

def details (e : BadResponse) : Entries Json :=
  [("errors", .strings (e.errors.map RowError.message)),
    ("requested_dimensions", .strings e.selection.dimensionNames),
    ("requested_metrics", .strings e.selection.metricNames)] ++
  (match e.report with
    | none => []
    | some r =>
      [("dimension_filter", .ofOption FilterTree.toJson r.dimensionFilter),
        ("metric_filter", .ofOption FilterTree.toJson r.metricFilter),
        ("date_range", r.dates.toJson)]) ++
  if e.isEmpty then [("suggestion", .str suggestion)] else []

end BadResponse

namespace Selection

/-- The shortfalls of the rows from the `i`-th on, dimensions before metrics in each. -/
def shortfalls (s : Selection) (i : Nat) : List Row → List RowError
  | [] => []
  | row :: rows =>
    let dimensions := s.dimensionNames.length
    let metrics := s.metricNames.length
    (if row.dimensionValues.length < dimensions then
        [.missingDimensions i dimensions row.dimensionValues.length] else []) ++
      (if row.metricValues.length < metrics then
        [.missingMetrics i metrics row.metricValues.length] else []) ++
      shortfalls s (i + 1) rows

def rowErrors (s : Selection) : List Row → List RowError
  | [] => [.noRows s.dimensionNames s.metricNames]
  | rows => s.shortfalls 0 rows

def valueOf (names : List String) (values : List (Option String)) (base : String) :
    Option String :=
  shown (values[names.idxOf base]?.getD none)

def project (fields : Entries String) (names : List String) (values : List (Option String)) :
    OutputRow :=
  fields.map fun (field, base) => (field, valueOf names values base)

def outputRow (s : Selection) (row : Row) : OutputRow :=
  Entries.ofList (project s.dimensions s.dimensionNames row.dimensionValues ++
    project s.metrics s.metricNames row.metricValues)

def mapRows (s : Selection) (rows : List Row) (report : Option Report) :
    Except BadResponse (List OutputRow) :=
  match s.rowErrors rows with
  | [] => .ok (rows.map s.outputRow)
  | errors => .error ⟨errors, s, report⟩

end Selection

end ReportQuery
