import ReportQuery.Double
import ReportQuery.Operator
import ReportQuery.Schema.Number

namespace ReportQuery

open Schema Checked

inductive TextMatch where
  | exact
  | partialRegexp
  deriving DecidableEq

namespace TextMatch

def all : List TextMatch := [exact, partialRegexp]

def name : TextMatch → String
  | exact => "EXACT"
  | partialRegexp => "PARTIAL_REGEXP"

end TextMatch

inductive NumberComparison where
  | equal
  | greater
  | less
  deriving DecidableEq

namespace NumberComparison

def all : List NumberComparison := [equal, greater, less]

def name : NumberComparison → String
  | equal => "EQUAL"
  | greater => "GREATER_THAN"
  | less => "LESS_THAN"

end NumberComparison

inductive LeafTest where
  | text (value : String) (matching : TextMatch)
  | number (comparison : NumberComparison) (value : Double)
  deriving DecidableEq

structure Leaf where
  field : String
  test : LeafTest
  deriving DecidableEq

inductive FilterTree where
  | leaf (leaf : Leaf)
  | group (parts : List FilterTree)

namespace FilterTree

mutual

def decEq : (tree other : FilterTree) → Decidable (tree = other)
  | leaf l, leaf m => decidable_of_iff (l = m) ⟨congrArg leaf, leaf.inj⟩
  | group parts, group others =>
    have := decEqParts parts others
    decidable_of_iff (parts = others) ⟨congrArg group, group.inj⟩
  | leaf _, group _ => isFalse nofun
  | group _, leaf _ => isFalse nofun

def decEqParts : (parts others : List FilterTree) → Decidable (parts = others)
  | [], [] => isTrue rfl
  | part :: parts, other :: others =>
    have := decEq part other
    have := decEqParts parts others
    decidable_of_iff (part = other ∧ parts = others) ⟨fun h => h.1 ▸ h.2 ▸ rfl, List.cons.inj⟩
  | [], _ :: _ => isFalse nofun
  | _ :: _, [] => isFalse nofun

end

instance : DecidableEq FilterTree := decEq

end FilterTree

namespace LeafTest

def toJson : LeafTest → Json
  | text value matching =>
    .obj [("kind", .str "string"), ("value", .str value), ("match_type", .str matching.name)]
  | number comparison value =>
    .obj [("kind", .str "numeric"), ("operation", .str comparison.name), ("value", .float value)]

def tags : List String := ["string", "numeric"]

def check : Json → Checked LeafTest
  | .obj members =>
    (tag "kind" tags members).refine fun kind =>
      (if kind = "string" then
        text <$> required "value" Schema.text members
          <*> optional "match_type" .exact (oneOf TextMatch.name TextMatch.all) members
      else
        number <$> required "operation" (oneOf NumberComparison.name NumberComparison.all) members
          <*> required "value" Schema.number members).within (.key kind)
  | _ => fault .notMapping

end LeafTest

namespace Leaf

def toJson (l : Leaf) : Json :=
  .obj [("kind", .str "leaf"), ("field_name", .str l.field), ("predicate", l.test.toJson)]

def check (members : Entries Json) : Checked Leaf :=
  Leaf.mk <$> required "field_name" text members <*> required "predicate" LeafTest.check members

end Leaf

namespace FilterTree

mutual

def toJson : FilterTree → Json
  | leaf l => l.toJson
  | group parts => .obj [("kind", .str "and_group"), ("expressions", .arr (partsToJson parts))]

def partsToJson : List FilterTree → List Json
  | [] => []
  | part :: parts => toJson part :: partsToJson parts

end

def tags : List String := ["leaf", "and_group"]

mutual

def check : Json → Checked FilterTree
  | .obj members =>
    (tag "kind" tags members).refine fun kind =>
      (if kind = "leaf" then leaf <$> Leaf.check members
        else group <$> partsAt "expressions" members).within (.key kind)
  | _ => fault .notMapping

def partsAt (key : String) : List (String × Json) → Checked (List FilterTree)
  | [] => (fault .missing).within (.key key)
  | (k, value) :: rest =>
    if k = key then (parts value).within (.key key) else partsAt key rest

def parts : Json → Checked (List FilterTree)
  | .arr items => partsFrom 0 items
  | _ => fault .notList

def partsFrom (i : Nat) : List Json → Checked (List FilterTree)
  | [] => valid []
  | item :: items => List.cons <$> (check item).within (.index i) <*> partsFrom (i + 1) items

end

end FilterTree

end ReportQuery
