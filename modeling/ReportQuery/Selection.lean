import ReportQuery.Outcome

namespace ReportQuery

structure Selection where
  dimensions : Entries String
  metrics : Entries String
  deriving DecidableEq

namespace Selection

def dimensionNames (s : Selection) : List String := distinct (s.dimensions.map (·.2))

def metricNames (s : Selection) : List String := distinct (s.metrics.map (·.2))

def fieldsOf (kind : ColumnKind) (fields : Entries String) : Entries String :=
  fields.filterMap fun (field, column) =>
    (ColumnRef.ofName? column).bind fun ref =>
      if ref.kind = kind then some (field, ref.base) else none

def defects (fields : Entries String) : List Defect :=
  fields.filterMap fun (field, column) =>
    match ColumnRef.ofName? column with
    | some _ => none
    | none => some (.unclassifiableColumn column (some field))

def ofFields (fields : Entries String) : Outcome Selection :=
  .collect ⟨fieldsOf .dimension fields, fieldsOf .metric fields⟩ (defects fields) []

end Selection

end ReportQuery
