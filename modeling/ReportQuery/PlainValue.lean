import ReportQuery.Filter
import ReportQuery.Predicate.Description

namespace ReportQuery.PlainValue

/-- A value in the place of a predicate, where null means that there is none. -/
def describe : Json → String
  | .null => Predicate.describeAbsent
  | value => value.display

def filters : Json → FilterLists
  | .null => .empty
  | value => .ofDefect (.plainPredicate value.typeName)

structure UnsupportedTest where
  value : Json

def UnsupportedTest.message (e : UnsupportedTest) : String :=
  "Unsupported filter predicate: " ++ e.value.typeName

end ReportQuery.PlainValue
