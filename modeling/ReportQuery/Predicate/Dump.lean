import ReportQuery.Predicate

namespace ReportQuery

def Target.toJson : Target → Json
  | column name => .obj [("type", .str "column"), ("name", .str name)]
  | rootColumn name => .obj [("type", .str "root_collection_column"), ("name", .str name)]

def Operand.toJson : Operand → Json
  | scalar value => .obj [("type", .str "scalar"), ("value", value)]
  | parameter name => .obj [("type", .str "variable"), ("name", .str name)]
  | column target => .obj [("type", .str "column"), ("column", target.toJson)]
  | unknown type extras => .obj (("type", .str type) :: extras)

namespace Predicate

mutual

def toJson : Predicate → Json
  | all parts => .obj [("type", .str "and"), ("expressions", .arr (partsToJson parts))]
  | any parts => .obj [("type", .str "or"), ("expressions", .arr (partsToJson parts))]
  | not part => .obj [("type", .str "not"), ("expression", toJson part)]
  | comparison target operator operand =>
    .obj [("type", .str "binary_comparison_operator"), ("column", target.toJson),
      ("operator", .str operator), ("value", operand.toJson)]
  | unary target operator =>
    .obj [("type", .str "unary_comparison_operator"), ("column", target.toJson),
      ("operator", .str operator)]
  | existence collection part =>
    .obj [("type", .str "exists"), ("in_collection", .obj collection),
      ("predicate", partToJson part)]
  | unknown type extras => .obj (("type", .str type) :: extras)

def partsToJson : List Predicate → List Json
  | [] => []
  | part :: parts => toJson part :: partsToJson parts

def partToJson : Option Predicate → Json
  | none => .null
  | some part => toJson part

end

end Predicate

end ReportQuery
