import ReportQuery.Filter.Numeric
import ReportQuery.Filter.Tree
import ReportQuery.Predicate

namespace ReportQuery

structure DataRow (Number : Type) where
  dimension : String → String
  metric : String → Number

/-- How the reporting service matches a text with a pattern, and compares a number with another. -/
structure Matching (Number : Type) where
  pattern : (pattern text : String) → Prop
  number : NumberComparison → Number → Double → Prop

variable {Number : Type}

def Leaf.Admits (m : Matching Number) (r : DataRow Number) (l : Leaf) : Prop :=
  match l.test with
  | .text value .exact => r.dimension l.field = value
  | .text value .partialRegexp => m.pattern value (r.dimension l.field)
  | .number comparison value => m.number comparison (r.metric l.field) value

namespace FilterTree

mutual

def Admits (m : Matching Number) (r : DataRow Number) : FilterTree → Prop
  | leaf l => l.Admits m r
  | group parts => AdmitAll m r parts

def AdmitAll (m : Matching Number) (r : DataRow Number) : List FilterTree → Prop
  | [] => True
  | part :: parts => Admits m r part ∧ AdmitAll m r parts

end

theorem admitAll_iff {m : Matching Number} {r : DataRow Number} {parts : List FilterTree} :
    AdmitAll m r parts ↔ ∀ part ∈ parts, part.Admits m r := by
  induction parts with
  | nil => simp [AdmitAll]
  | cons part parts ih => simp [AdmitAll, ih]

/-- A tree that may be absent; without one all rows are admitted. -/
def AdmitsIn (m : Matching Number) (r : DataRow Number) : Option FilterTree → Prop
  | none => True
  | some tree => tree.Admits m r

end FilterTree

/-- Whether a row passes the comparison of the column of a name, by the operator of a name, with a
literal. Comparisons of other forms admit no row. -/
inductive Compares (m : Matching Number) (r : DataRow Number) : String → String → Json → Prop where
  | equalText {x s : String} :
    r.dimension x = s → Compares m r ("dimension_" ++ x) "_eq" (.str s)
  | like {x s : String} :
    m.pattern s (r.dimension x) → Compares m r ("dimension_" ++ x) "_like" (.str s)
  | equalNumber {x : String} {v : Json} {d : Double} :
    v.toNumber = .ok (some d) → m.number .equal (r.metric x) d →
      Compares m r ("metric_" ++ x) "_eq" v
  | greater {x : String} {v : Json} {d : Double} :
    v.toNumber = .ok (some d) → m.number .greater (r.metric x) d →
      Compares m r ("metric_" ++ x) "_gt" v
  | less {x : String} {v : Json} {d : Double} :
    v.toNumber = .ok (some d) → m.number .less (r.metric x) d →
      Compares m r ("metric_" ++ x) "_lt" v

namespace Predicate

mutual

/-- Nodes of which no row is known to satisfy them admit none. -/
def Admits (m : Matching Number) (r : DataRow Number) : Predicate → Prop
  | all parts => AdmitAll m r parts
  | any parts => AdmitAny m r parts
  | not part => ¬ Admits m r part
  | comparison target operator (.scalar value) => Compares m r target.name operator value
  | comparison .. | unary .. | existence .. | unknown .. => False

def AdmitAll (m : Matching Number) (r : DataRow Number) : List Predicate → Prop
  | [] => True
  | part :: parts => Admits m r part ∧ AdmitAll m r parts

def AdmitAny (m : Matching Number) (r : DataRow Number) : List Predicate → Prop
  | [] => False
  | part :: parts => Admits m r part ∨ AdmitAny m r parts

end

theorem admitAll_iff {m : Matching Number} {r : DataRow Number} {parts : List Predicate} :
    AdmitAll m r parts ↔ ∀ part ∈ parts, part.Admits m r := by
  induction parts with
  | nil => simp [AdmitAll]
  | cons part parts ih => simp [AdmitAll, ih]

def AdmitsIn (m : Matching Number) (r : DataRow Number) : Option Predicate → Prop
  | none => True
  | some p => p.Admits m r

end Predicate

end ReportQuery
