import ReportQuery.Entries
import ReportQuery.Json

namespace ReportQuery

open Entries

/-- An object under whose key `type` stands a column of either collection, with a name. -/
inductive IsTarget : Json → Prop where
  | mk {members : Entries Json} {type name : String} :
    get? "type" members = some (.str type) → type ∈ ["column", "root_collection_column"] →
      get? "name" members = some (.str name) → IsTarget (.obj members)

def TextOrAbsent (key : String) (members : Entries Json) : Prop :=
  get? key members = none ∨ ∃ s, get? key members = some (.str s)

/-- The type of a node that is none of the known ones. -/
def OtherType (known : List String) (members : Entries Json) : Prop :=
  get? "type" members = none ∨ ∃ type, get? "type" members = some (.str type) ∧ type ∉ known

inductive IsOperand : Json → Prop where
  | scalar {members : Entries Json} :
    get? "type" members = some (.str "scalar") → IsOperand (.obj members)
  | parameter {members : Entries Json} {name : String} :
    get? "type" members = some (.str "variable") → get? "name" members = some (.str name) →
      IsOperand (.obj members)
  | column {members : Entries Json} {target : Json} :
    get? "type" members = some (.str "column") → get? "column" members = some target →
      IsTarget target → IsOperand (.obj members)
  | unknown {members : Entries Json} :
    OtherType ["scalar", "variable", "column"] members → IsOperand (.obj members)

namespace Predicate

def nodeTypes : List String :=
  ["and", "or", "not", "binary_comparison_operator", "unary_comparison_operator", "exists"]

end Predicate

inductive IsPredicate : Json → Prop where
  /-- Conjunctions and disjunctions without parts. -/
  | empty {members : Entries Json} {type : String} :
    get? "type" members = some (.str type) → type ∈ ["and", "or"] →
      get? "expressions" members = none → IsPredicate (.obj members)
  | parts {members : Entries Json} {type : String} {items : List Json} :
    get? "type" members = some (.str type) → type ∈ ["and", "or"] →
      get? "expressions" members = some (.arr items) → (∀ item ∈ items, IsPredicate item) →
        IsPredicate (.obj members)
  | not {members : Entries Json} {part : Json} :
    get? "type" members = some (.str "not") → get? "expression" members = some part →
      IsPredicate part → IsPredicate (.obj members)
  | comparison {members : Entries Json} {target operand : Json} {operator : String} :
    get? "type" members = some (.str "binary_comparison_operator") →
      get? "column" members = some target → IsTarget target →
        get? "operator" members = some (.str operator) →
          get? "value" members = some operand → IsOperand operand → IsPredicate (.obj members)
  | unary {members : Entries Json} {target : Json} :
    get? "type" members = some (.str "unary_comparison_operator") →
      get? "column" members = some target → IsTarget target →
        TextOrAbsent "operator" members → IsPredicate (.obj members)
  /-- A test of existence without a part, or with null for it. -/
  | existence {members : Entries Json} :
    get? "type" members = some (.str "exists") →
      (get? "in_collection" members = none ∨
        ∃ inner, get? "in_collection" members = some (.obj inner)) →
        (get? "predicate" members = none ∨ get? "predicate" members = some .null) →
          IsPredicate (.obj members)
  | existenceOf {members : Entries Json} {part : Json} :
    get? "type" members = some (.str "exists") →
      (get? "in_collection" members = none ∨
        ∃ inner, get? "in_collection" members = some (.obj inner)) →
        get? "predicate" members = some part → IsPredicate part → IsPredicate (.obj members)
  | unknown {members : Entries Json} :
    OtherType Predicate.nodeTypes members → IsPredicate (.obj members)

end ReportQuery
