import ReportQuery.Text.Quoted

namespace ReportQuery.Schema

/-- A step into a value: to a member, an item, or the chosen alternative of a union. -/
inductive Step where
  | key (name : String)
  | index (i : Nat)
  deriving DecidableEq

inductive Problem where
  | malformed
  | notRecord
  | notMapping
  | notList
  | notText
  | missing
  | notWord (expected : String)
  | notOneOf (choices : List String)
  /-- The member that names the alternative of a union is absent. -/
  | tagMissing (key : String)
  | tagUnknown (key found : String) (tags : List String)
  | notInteger
  | notIntegerText
  | integerTooLarge
  | hasFraction
  | notFinite
  | notPositive
  | notNumber
  | notNumberText
  deriving DecidableEq

structure Fault where
  path : List Step
  problem : Problem
  deriving DecidableEq

/-- Alternatives in prose: `a, b or c`. -/
def alternatives : List String → String
  | [] => ""
  | [a] => a
  | [a, b] => a ++ " or " ++ b
  | a :: rest => a ++ ", " ++ alternatives rest

namespace Problem

private def inQuotes (s : String) : String := "'" ++ s ++ "'"

def code : Problem → String
  | malformed => "json_invalid"
  | notRecord => "model_type"
  | notMapping => "dict_type"
  | notList => "list_type"
  | notText => "string_type"
  | missing => "missing"
  | notWord _ => "literal_error"
  | notOneOf _ => "enum"
  | tagMissing _ => "union_tag_not_found"
  | tagUnknown .. => "union_tag_invalid"
  | notInteger => "int_type"
  | notIntegerText => "int_parsing"
  | integerTooLarge => "int_parsing_size"
  | hasFraction => "int_from_float"
  | notFinite => "finite_number"
  | notPositive => "greater_than"
  | notNumber => "float_type"
  | notNumberText => "float_parsing"

def message? : Problem → Option String
  | malformed => none
  | notRecord => some "Input should be an object"
  | notMapping => some "Input should be an object"
  | notList => some "Input should be a valid array"
  | notText => some "Input should be a valid string"
  | missing => some "Field required"
  | notWord expected => some ("Input should be " ++ inQuotes expected)
  | notOneOf choices => some ("Input should be " ++ alternatives (choices.map inQuotes))
  | tagMissing key => some ("Unable to extract tag using discriminator " ++ inQuotes key)
  | tagUnknown key found tags =>
    some ("Input tag " ++ inQuotes found ++ " found using " ++ inQuotes key ++
      " does not match any of the expected tags: " ++ ", ".intercalate (tags.map inQuotes))
  | notInteger => some "Input should be a valid integer"
  | notIntegerText =>
    some "Input should be a valid integer, unable to parse string as an integer"
  | integerTooLarge =>
    some "Unable to parse input string as an integer, exceeded maximum size"
  | hasFraction => some "Input should be a valid integer, got a number with a fractional part"
  | notFinite => some "Input should be a finite number"
  | notPositive => some "Input should be greater than 0"
  | notNumber => some "Input should be a valid number"
  | notNumberText => some "Input should be a valid number, unable to parse string as a number"

end Problem

end ReportQuery.Schema
