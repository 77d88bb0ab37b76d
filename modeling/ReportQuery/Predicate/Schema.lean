import ReportQuery.Predicate
import ReportQuery.Schema.Checked

namespace ReportQuery

open Schema Checked

def Target.tags : List String := ["column", "root_collection_column"]

def Target.check : Json → Checked Target
  | .obj members =>
    (tag "type" tags members).refine fun type =>
      ((if type = "column" then column else rootColumn) <$> required "name" text members).within
        (.key type)
  | _ => fault .notMapping

def extraMembers (members : Entries Json) : Entries Json :=
  members.filter fun (key, _) => key ≠ "type"

def unknownType : Entries Json → Checked String := optional "type" "unknown" text

/-- The type that a node claims, if it is a text. -/
def claimedType (members : Entries Json) : Option String :=
  match Entries.get? "type" members with
  | some (.str type) => some type
  | _ => none

def Operand.check : Json → Checked Operand
  | .obj members =>
    match claimedType members with
    | some "scalar" =>
      (scalar <$> optional "value" .null anything members).within (.key "scalar")
    | some "variable" => (parameter <$> required "name" text members).within (.key "variable")
    | some "column" => (column <$> required "column" Target.check members).within (.key "column")
    | _ =>
      ((unknown · (extraMembers members)) <$> unknownType members).within (.key "unknown")
  | _ => (fault .notRecord).within (.key "unknown")

namespace Predicate

mutual

def check : Json → Checked Predicate
  | .obj members =>
    match claimedType members with
    | some "and" => (all <$> partsAt "expressions" members).within (.key "and")
    | some "or" => (any <$> partsAt "expressions" members).within (.key "or")
    | some "not" =>
      (match partAt? "expression" members with
        | some part => not <$> part.within (.key "expression")
        | none => (fault .missing).within (.key "expression")).within (.key "not")
    | some "binary_comparison_operator" =>
      (comparison <$> required "column" Target.check members <*> required "operator" text members
        <*> required "value" Operand.check members).within (.key "binary_comparison_operator")
    | some "unary_comparison_operator" =>
      (unary <$> required "column" Target.check members
        <*> optional "operator" "is_null" text members).within (.key "unary_comparison_operator")
    | some "exists" =>
      (existence <$> optional "in_collection" [] mapping members
        <*> optionalPartAt "predicate" members).within (.key "exists")
    | _ =>
      ((unknown · (extraMembers members)) <$> unknownType members).within (.key "unknown")
  | _ => (fault .notRecord).within (.key "unknown")

def partAt? (key : String) : List (String × Json) → Option (Checked Predicate)
  | [] => none
  | (k, value) :: rest => if k = key then some (check value) else partAt? key rest

def optionalPartAt (key : String) : List (String × Json) → Checked (Option Predicate)
  | [] => valid none
  | (k, .null) :: rest => if k = key then valid none else optionalPartAt key rest
  | (k, value) :: rest =>
    if k = key then (some <$> check value).within (.key key) else optionalPartAt key rest

def partsAt (key : String) : List (String × Json) → Checked (List Predicate)
  | [] => valid []
  | (k, value) :: rest =>
    if k = key then (parts value).within (.key key) else partsAt key rest

def parts : Json → Checked (List Predicate)
  | .arr items => partsFrom 0 items
  | _ => fault .notList

def partsFrom (i : Nat) : List Json → Checked (List Predicate)
  | [] => valid []
  | item :: items => List.cons <$> (check item).within (.index i) <*> partsFrom (i + 1) items

end

end Predicate

end ReportQuery
