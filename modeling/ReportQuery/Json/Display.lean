import ReportQuery.Json
import ReportQuery.Double.Text
import ReportQuery.Text.Quoted

namespace ReportQuery.Json

mutual

def literal : Json → String
  | .null => "None"
  | .bool b => if b then "True" else "False"
  | .int n => toString n
  | .float x => x.text
  | .str s => Text.quoted s
  | .arr items => "[" ++ ", ".intercalate (itemLiterals items) ++ "]"
  | .obj members => "\x7b" ++ ", ".intercalate (memberLiterals members) ++ "\x7d"

def itemLiterals : List Json → List String
  | [] => []
  | item :: items => literal item :: itemLiterals items

def memberLiterals : List (String × Json) → List String
  | [] => []
  | (key, value) :: members => (Text.quoted key ++ ": " ++ literal value) :: memberLiterals members

end

def display : Json → String
  | .str s => s
  | value => literal value

def typeName : Json → String
  | .null => "NoneType"
  | .bool _ => "bool"
  | .int _ => "int"
  | .float _ => "float"
  | .str _ => "str"
  | .arr _ => "list"
  | .obj _ => "dict"

end ReportQuery.Json

namespace ReportQuery

def listLiteral (items : List String) : String :=
  (Json.strings items).literal

end ReportQuery
