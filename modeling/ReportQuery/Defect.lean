import ReportQuery.Json.Display
import ReportQuery.Operator

namespace ReportQuery

structure Message where
  code : String
  text : String
  context : Entries Json

inductive DumpError where
  | tooDeep
  deriving DecidableEq

def DumpError.message : DumpError → String
  | tooDeep => "Maximum serialization depth exceeded"

namespace Message

def headline (m : Message) : String := m.code ++ ": " ++ m.text

def toJson (m : Message) : Json :=
  .obj [("code", .str m.code), ("message", .str m.text), ("context", .obj m.context)]

/-- The depth to which the serializer of the schema library goes. -/
def nestingLimit : Nat := 255

/-- A message as it is dumped, with finite numbers only. -/
def dump (m : Message) : Except DumpError Json :=
  if Json.membersNesting m.context ≤ nestingLimit then .ok (Json.finite m.toJson)
  else .error .tooDeep

end Message

inductive Defect where
  | unsupportedOperator (operator : String)
  /-- A column of neither kind, with the output field that asks for it, if one does. -/
  | unclassifiableColumn (column : String) (field : Option String)
  | disjunction (conditions : Nat)
  | negation
  | existence
  | unaryComparison (operator : String)
  | unknownPredicate (type : String)
  /-- A plain value where a predicate is expected. -/
  | plainPredicate (typeName : String)
  /-- An operand that is no literal, or the null literal. -/
  | unsupportedOperand (column type : String)
  | operatorMismatch (operator : Operator) (kind : ColumnKind) (column : String)
  | kindMismatch (column : String) (actual expected : ColumnKind)
  | dimensionValue (column : String) (value : Json)
  | metricValue (column : String) (value : Json)
  /-- A message that came with its text. -/
  | reported (message : Message)

namespace Defect

def code : Defect → String
  | unsupportedOperator _ => "unsupported_operator"
  | unclassifiableColumn .. => "unclassifiable_column"
  | disjunction _ => "or_not_preserved"
  | negation | existence | unaryComparison _ => "unsupported_expression"
  | unknownPredicate _ | plainPredicate _ => "unknown_expression"
  | unsupportedOperand .. => "unsupported_value"
  | operatorMismatch .. => "operator_kind_mismatch"
  | kindMismatch .. => "kind_mismatch"
  | dimensionValue .. | metricValue .. => "type_mismatch"
  | reported m => m.code

def text : Defect → String
  | unsupportedOperator operator =>
    "Operator '" ++ operator ++ "' is not supported. Supported operators: " ++
      ", ".intercalate (Operator.all.map Operator.name)
  | unclassifiableColumn column _ =>
    "Column " ++ column ++ " is neither a dimension nor a metric"
  | disjunction _ =>
    "OR expressions are not supported; their conditions would be applied as AND"
  | negation => "NOT expressions are not supported in GA4 filters"
  | existence => "EXISTS expressions are not supported in GA4 filters"
  | unaryComparison _ => "Unary comparison operators are not supported in GA4 filters"
  | unknownPredicate type => "Unknown expression type: " ++ type
  | plainPredicate typeName => "Unknown expression type: " ++ typeName
  | unsupportedOperand column _ =>
    "Failed to extract value from comparison on " ++ column ++
      ": only non-null literal values are supported"
  | operatorMismatch operator kind _ =>
    "Operator '" ++ operator.name ++ "' is not supported for " ++ kind.name ++ "s. Only " ++
      ", ".intercalate (kind.operators.map fun o => Text.quoted o.name) ++
      " are supported for " ++ kind.name ++ "s."
  | kindMismatch column actual expected =>
    "Column " ++ column ++ " is a " ++ actual.name ++ ", not a " ++ expected.name
  | dimensionValue _ value =>
    "Dimension filter value must be a string, got: " ++ value.typeName
  | metricValue _ value => "Metric filter value must be numeric, got: " ++ value.literal
  | reported m => m.text

def context : Defect → Entries Json
  | unsupportedOperator operator => [("operator", .str operator)]
  | unclassifiableColumn column field =>
    ("column", .str column) :: (field.toList.map fun name => ("field", .str name))
  | disjunction conditions => [("conditions", .nat conditions)]
  | negation => [("type", .str "not")]
  | existence => [("type", .str "exists")]
  | unaryComparison operator =>
    [("type", .str "unary_comparison_operator"), ("operator", .str operator)]
  | unknownPredicate type => [("type", .str type)]
  | plainPredicate _ => []
  | unsupportedOperand column type => [("column", .str column), ("value_type", .str type)]
  | operatorMismatch operator kind column =>
    [("operator", .str operator.name), ("kind", .str kind.name), ("column", .str column),
      ("allowed_operators", .strings (kind.operators.map Operator.name))]
  | kindMismatch column .. => [("column", .str column)]
  | dimensionValue column value => [("column", .str column), ("value", .str value.literal)]
  | metricValue column value => [("column", .str column), ("value", .str value.literal)]
  | reported m => m.context

def message (d : Defect) : Message := ⟨d.code, d.text, d.context⟩

end Defect

def Operator.supported (name : String) : Except Defect Operator :=
  match Operator.ofName? name with
  | some operator => .ok operator
  | none => .error (.unsupportedOperator name)

def Operator.mismatch? (operator : Operator) (kind : ColumnKind) (column : String) :
    Option Defect :=
  if operator.appliesTo kind then none else some (.operatorMismatch operator kind column)

theorem Operator.mismatch?_eq_none_iff {operator : Operator} {kind : ColumnKind} {column : String} :
    operator.mismatch? kind column = none ↔ operator.appliesTo kind := by
  cases h : operator.appliesTo kind <;> simp [mismatch?, h]

end ReportQuery
