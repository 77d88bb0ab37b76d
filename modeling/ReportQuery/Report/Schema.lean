import ReportQuery.Json.Reader
import ReportQuery.Report

namespace ReportQuery

open Schema Checked

def DateRange.check : Json → Checked DateRange :=
  record fun members =>
    DateRange.mk <$> optional "start_date" lastWeek.first text members
      <*> optional "end_date" lastWeek.last text members

namespace Report

def check : Json → Checked Report :=
  record fun members =>
    Report.mk <$> required "property_id" text members
      <*> optional "date_range" .lastWeek DateRange.check members
      <*> optional "dimension_names" [] (listOf text) members
      <*> optional "metric_names" [] (listOf text) members
      <*> optional "limit" defaultLimit integer members
      <*> optional "dimension_filter" none (nullable FilterTree.check) members
      <*> optional "metric_filter" none (nullable FilterTree.check) members

def ofText (s : String) : Checked Report := Schema.ofText Json.ofText? check s

end Report

end ReportQuery
