import ReportQuery.Filter
import ReportQuery.Schema.Checked

namespace ReportQuery

open Schema Checked

def Message.check : Json → Checked Message :=
  record fun members =>
    Message.mk <$> required "code" Schema.text members
      <*> required "message" Schema.text members
      <*> optional "context" [] mapping members

namespace Filter

def check : Json → Checked Filter :=
  record fun members =>
    Filter.mk <$> required "column_name" text members <*> required "base_name" text members
      <*> required "operator" (oneOf Operator.name Operator.all) members
      <*> required "value" anything members
      <*> required "kind" (oneOf ColumnKind.name ColumnKind.all) members

def toJson (f : Filter) : Json :=
  .obj [("column_name", .str f.column), ("base_name", .str f.base),
    ("operator", .str f.operator.name), ("kind", .str f.kind.name), ("value", f.value)]

end Filter

namespace FilterLists

def check : Json → Checked FilterLists :=
  record fun members =>
    FilterLists.mk <$> optional "dimension_filters" [] (listOf Filter.check) members
      <*> optional "metric_filters" [] (listOf Filter.check) members
      <*> (List.map Defect.reported) <$> optional "errors" [] (listOf Message.check) members

def toJson (lists : FilterLists) : Json :=
  .obj [("dimension_filters", .arr (lists.dimension.map Filter.toJson)),
    ("metric_filters", .arr (lists.metric.map Filter.toJson)),
    ("errors", .arr (lists.defects.map fun d => d.message.toJson))]

end FilterLists

end ReportQuery
