import ReportQuery.Double
import ReportQuery.Entries

namespace ReportQuery

inductive Json where
  | null
  | bool (value : Bool)
  | int (value : Int)
  | float (value : Double)
  | str (value : String)
  | arr (items : List Json)
  | obj (members : List (String × Json))
  deriving Inhabited

namespace Json

/-- Whether a value counts as present where absence is the alternative: null, false, zero and
whatever is empty do not. -/
def isPresent : Json → Bool
  | null => false
  | bool b => b
  | int n => n ≠ 0
  | float x => !x.isZero
  | str s => s ≠ ""
  | arr items => !items.isEmpty
  | obj members => !members.isEmpty

mutual

/-- A value with null in the place of every number that is not finite. -/
def finite : Json → Json
  | float x => if x.isFinite then float x else null
  | arr items => arr (finiteItems items)
  | obj members => obj (finiteMembers members)
  | value => value

def finiteItems : List Json → List Json
  | [] => []
  | item :: items => finite item :: finiteItems items

def finiteMembers : List (String × Json) → List (String × Json)
  | [] => []
  | (key, value) :: members => (key, finite value) :: finiteMembers members

end

mutual

/-- How deep values are nested in a value, itself counted. -/
def nesting : Json → Nat
  | arr items => itemsNesting items + 1
  | obj members => membersNesting members + 1
  | _ => 1

def itemsNesting : List Json → Nat
  | [] => 0
  | item :: items => max (nesting item) (itemsNesting items)

def membersNesting : List (String × Json) → Nat
  | [] => 0
  | (_, value) :: members => max (nesting value) (membersNesting members)

end

def strings (items : List String) : Json := .arr (items.map .str)

def nat (n : Nat) : Json := .int n

def ofOption {α : Type} (toJson : α → Json) : Option α → Json
  | none => .null
  | some a => toJson a

end Json

end ReportQuery
