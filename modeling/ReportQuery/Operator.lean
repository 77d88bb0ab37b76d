import ReportQuery.Column

namespace ReportQuery

inductive Operator where
  | equal
  | greater
  | less
  | like
  deriving DecidableEq

namespace Operator

def all : List Operator := [equal, greater, less, like]

def name : Operator → String
  | equal => "_eq"
  | greater => "_gt"
  | less => "_lt"
  | like => "_like"

def ofName? (name : String) : Option Operator := all.find? fun operator => operator.name = name

def ofName (name : String) : Except UnknownName Operator :=
  match ofName? name with
  | some operator => .ok operator
  | none => .error ⟨name, "ComparisonOperator"⟩

/-- Equality applies to every column, order to metrics, patterns to dimensions. -/
def appliesTo : Operator → ColumnKind → Bool
  | equal, _ => true
  | greater, kind => kind = .metric
  | less, kind => kind = .metric
  | like, kind => kind = .dimension

def symbol : Operator → String
  | equal => "=="
  | greater => ">"
  | less => "<"
  | like => "LIKE"

end Operator

theorem Operator.ofName?_eq_some_iff {name : String} {operator : Operator} :
    Operator.ofName? name = some operator ↔ operator.name = name := by
  constructor
  · intro h
    simpa using List.find?_some h
  · rintro rfl
    cases operator <;> rfl

def ColumnKind.operators (kind : ColumnKind) : List Operator :=
  Operator.all.filter (·.appliesTo kind)

end ReportQuery
