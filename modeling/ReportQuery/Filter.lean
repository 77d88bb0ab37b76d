import ReportQuery.Defect
import ReportQuery.Predicate

namespace ReportQuery

structure Filter where
  column : String
  base : String
  operator : Operator
  value : Json
  kind : ColumnKind

structure FilterLists where
  dimension : List Filter
  metric : List Filter
  defects : List Defect

namespace FilterLists

def empty : FilterLists := ⟨[], [], []⟩

def append (a b : FilterLists) : FilterLists :=
  ⟨a.dimension ++ b.dimension, a.metric ++ b.metric, a.defects ++ b.defects⟩

@[simp]
theorem empty_append (a : FilterLists) : empty.append a = a := rfl

@[simp]
theorem append_empty (a : FilterLists) : a.append empty = a := by
  simp [append, empty]

theorem append_assoc (a b c : FilterLists) : (a.append b).append c = a.append (b.append c) := by
  simp [append]

def ofDefect (d : Defect) : FilterLists := ⟨[], [], [d]⟩

def ofFilter (f : Filter) : FilterLists :=
  match f.kind with
  | .dimension => ⟨[f], [], []⟩
  | .metric => ⟨[], [f], []⟩

end FilterLists

/-- The filter of a comparison. Of several defects the first is reported, in the order operator,
column, operand, and whether the operator applies to the column. -/
def Filter.ofComparison (target : Target) (operator : String) (operand : Operand) :
    Except Defect Filter := do
  let operator ← Operator.supported operator
  let ref ← match ColumnRef.ofName? target.name with
    | some ref => pure ref
    | none => throw (.unclassifiableColumn target.name none)
  let value ← match operand.literal? with
    | some value => pure value
    | none => throw (.unsupportedOperand ref.column operand.type)
  match operator.mismatch? ref.kind ref.column with
  | some defect => throw defect
  | none => pure ⟨ref.column, ref.base, operator, value, ref.kind⟩

theorem Filter.ofComparison_eq_ok_iff {target : Target} {operator : String} {operand : Operand}
    {f : Filter} :
    Filter.ofComparison target operator operand = .ok f ↔
      f.operator.name = operator ∧ f.column = target.name ∧ f.kind.mark ++ f.base = target.name ∧
        operand.literal? = some f.value ∧ f.operator.appliesTo f.kind := by
  constructor
  · intro h
    rw [ofComparison, Operator.supported] at h
    cases ho : Operator.ofName? operator with
    | none => rw [ho] at h; cases h
    | some o =>
    cases hr : ColumnRef.ofName? target.name with
    | none => rw [ho, hr] at h; cases h
    | some ref =>
    cases hl : operand.literal? with
    | none => rw [ho, hr, hl] at h; cases h
    | some value =>
    cases hm : o.mismatch? ref.kind ref.column with
    | some defect => simp only [ho, hr, hl, bind, Except.bind, pure, Except.pure, hm] at h; cases h
    | none =>
      simp only [ho, hr, hl, bind, Except.bind, pure, Except.pure, hm] at h
      cases h
      rw [ColumnRef.ofName?_eq_some_iff] at hr
      exact ⟨Operator.ofName?_eq_some_iff.mp ho, hr.1, hr.2, rfl,
        Operator.mismatch?_eq_none_iff.mp hm⟩
  · intro h
    obtain ⟨ho, hc, hb, hl, ha⟩ := h
    have hr : ColumnRef.ofName? target.name = some ⟨f.column, f.base, f.kind⟩ :=
      ColumnRef.ofName?_eq_some_iff.mpr ⟨hc, hb⟩
    have hm : f.operator.mismatch? f.kind f.column = none := Operator.mismatch?_eq_none_iff.mpr ha
    rw [ofComparison, Operator.supported, Operator.ofName?_eq_some_iff.mpr ho]
    simp only [hr, hl, bind, Except.bind, pure, Except.pure, hm]

namespace Predicate

mutual

def filters : Predicate → FilterLists
  | all parts => filtersOf parts
  | any parts => (FilterLists.ofDefect (.disjunction parts.length)).append (filtersOf parts)
  | not _ => .ofDefect .negation
  | existence .. => .ofDefect .existence
  | unary _ operator => .ofDefect (.unaryComparison operator)
  | comparison target operator operand =>
    match Filter.ofComparison target operator operand with
    | .ok filter => .ofFilter filter
    | .error defect => .ofDefect defect
  | unknown type _ => .ofDefect (.unknownPredicate type)

def filtersOf : List Predicate → FilterLists
  | [] => .empty
  | part :: parts => (filters part).append (filtersOf parts)

end

theorem filtersOf_append (parts more : List Predicate) :
    filtersOf (parts ++ more) = (filtersOf parts).append (filtersOf more) := by
  induction parts with
  | nil => rfl
  | cons part parts ih => rw [List.cons_append, filtersOf, filtersOf, ih, FilterLists.append_assoc]

def filtersOfPart : Option Predicate → FilterLists
  | none => .empty
  | some p => p.filters

end Predicate

end ReportQuery
