import ReportQuery.DateRange
import ReportQuery.Filter.Assembly
import ReportQuery.Query
import ReportQuery.Selection

namespace ReportQuery

structure Report where
  propertyId : String
  dates : DateRange
  dimensionNames : List String
  metricNames : List String
  limit : Int
  dimensionFilter : Option FilterTree
  metricFilter : Option FilterTree
  deriving DecidableEq

namespace Report

def defaultLimit : Int := 10000

def pathOf (propertyId : String) : String := "properties/" ++ propertyId

def path (r : Report) : String := pathOf r.propertyId

/-- The dimensions to ask for. The scoping dimension is always among them, so that the scope has a
column to apply to. -/
def dimensionsFor (s : Selection) (scope : Scope) : List String :=
  addName s.dimensionNames scope.dimension

def assemble (query : Query) (filters : ReportFilters) (selection : Selection)
    (propertyId : String) (scope : Scope) : Except UnsupportedDate Report := do
  let dates ← DateRange.resolve query.dates
  pure
    { propertyId
      dates
      dimensionNames := dimensionsFor selection scope
      metricNames := selection.metricNames
      limit := (query.limit.map fun n => (n.val : Int)).getD defaultLimit
      dimensionFilter := filters.dimension
      metricFilter := filters.metric }

def toJson (r : Report) : Json :=
  .obj [("property_id", .str r.propertyId), ("date_range", r.dates.toJson),
    ("dimension_names", .strings r.dimensionNames), ("metric_names", .strings r.metricNames),
    ("limit", .int r.limit), ("dimension_filter", .ofOption FilterTree.toJson r.dimensionFilter),
    ("metric_filter", .ofOption FilterTree.toJson r.metricFilter)]

end Report

end ReportQuery
