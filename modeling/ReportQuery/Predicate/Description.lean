import ReportQuery.Predicate
import ReportQuery.Operator
import ReportQuery.Json.Display

namespace ReportQuery

def Operand.describe : Operand → String
  | scalar value => value.literal
  | parameter name => "$" ++ name
  | column target => target.name
  | unknown type _ => "<unknown:" ++ type ++ ">"

def operatorSign (name : String) : String :=
  match Operator.ofName? name with
  | some operator => operator.symbol
  | none => name

namespace Predicate

def describeAbsent : String := "(none)"

mutual

def describe : Predicate → String
  | all parts => "(" ++ " AND ".intercalate (describeParts parts) ++ ")"
  | any parts => "(" ++ " OR ".intercalate (describeParts parts) ++ ")"
  | not part => "(NOT " ++ describe part ++ ")"
  | comparison target operator operand =>
    target.name ++ " " ++ operatorSign operator ++ " " ++ operand.describe
  | unary target operator => target.name ++ " " ++ operator
  | existence _ part => "(EXISTS " ++ describePart part ++ ")"
  | unknown type _ => "<unknown:" ++ type ++ ">"

def describeParts : List Predicate → List String
  | [] => []
  | part :: parts => describe part :: describeParts parts

def describePart : Option Predicate → String
  | none => describeAbsent
  | some part => describe part

end

end Predicate

end ReportQuery
