import ReportQuery.Json

namespace ReportQuery

/-- What a comparison is about: a column, or a column of the root collection. -/
inductive Target where
  | column (name : String)
  | rootColumn (name : String)
  deriving DecidableEq

def Target.name : Target → String
  | column name => name
  | rootColumn name => name

inductive Operand where
  | scalar (value : Json)
  | parameter (name : String)
  | column (target : Target)
  | unknown (type : String) (extras : Entries Json)

namespace Operand

def type : Operand → String
  | scalar _ => "scalar"
  | parameter _ => "variable"
  | column _ => "column"
  | unknown type _ => type

def literal? : Operand → Option Json
  | scalar .null => none
  | scalar value => some value
  | _ => none

end Operand

inductive Predicate where
  | all (parts : List Predicate)
  | any (parts : List Predicate)
  | not (part : Predicate)
  | comparison (target : Target) (operator : String) (operand : Operand)
  | unary (target : Target) (operator : String)
  | existence (collection : Entries Json) (part : Option Predicate)
  | unknown (type : String) (extras : Entries Json)
  deriving Inhabited

end ReportQuery
