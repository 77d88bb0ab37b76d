import ReportQuery.Filter

namespace ReportQuery

def Operand.onColumns : Operand → Operand
  | column target => column (.column target.name)
  | operand => operand

def Operand.columnNames : Operand → List String
  | column target => [target.name]
  | _ => []

namespace Predicate

mutual

/-- A predicate with a plain column in the place of every column of the root collection. -/
def onColumns : Predicate → Predicate
  | all parts => all (onColumnsOf parts)
  | any parts => any (onColumnsOf parts)
  | not part => not (onColumns part)
  | comparison target operator operand =>
    comparison (.column target.name) operator operand.onColumns
  | unary target operator => unary (.column target.name) operator
  | existence collection part => existence collection (onColumnsPart part)
  | unknown type extras => unknown type extras

def onColumnsOf : List Predicate → List Predicate
  | [] => []
  | part :: parts => onColumns part :: onColumnsOf parts

def onColumnsPart : Option Predicate → Option Predicate
  | none => none
  | some part => some (onColumns part)

end

mutual

def columnNames : Predicate → List String
  | all parts => columnNamesOf parts
  | any parts => columnNamesOf parts
  | not part => columnNames part
  | comparison target _ operand => target.name :: operand.columnNames
  | unary target _ => [target.name]
  | existence _ part => columnNamesOfPart part
  | unknown .. => []

def columnNamesOf : List Predicate → List String
  | [] => []
  | part :: parts => columnNames part ++ columnNamesOf parts

def columnNamesOfPart : Option Predicate → List String
  | none => []
  | some part => columnNames part

end

end Predicate

theorem Filter.ofComparison_onColumns (target : Target) (operator : String) (operand : Operand) :
    ofComparison (.column target.name) operator operand.onColumns =
      ofComparison target operator operand := by
  cases operand with
  | scalar _ | parameter _ | column _ | unknown _ _ => rfl

namespace Predicate

theorem length_onColumnsOf (parts : List Predicate) :
    (onColumnsOf parts).length = parts.length := by
  induction parts with
  | nil => rfl
  | cons part parts ih => rw [onColumnsOf, List.length_cons, List.length_cons, ih]

mutual

theorem filters_onColumns : (p : Predicate) → p.onColumns.filters = p.filters
  | all parts => by rw [onColumns, filters, filters, filtersOf_onColumnsOf parts]
  | any parts => by
    rw [onColumns, filters, filters, filtersOf_onColumnsOf parts, length_onColumnsOf]
  | comparison target operator operand => by
    rw [onColumns, filters, filters, Filter.ofComparison_onColumns]
  | not _ | unary .. | existence .. | unknown .. => rfl

theorem filtersOf_onColumnsOf : (parts : List Predicate) →
    filtersOf (onColumnsOf parts) = filtersOf parts
  | [] => rfl
  | part :: parts => by
    rw [onColumnsOf, filtersOf, filtersOf, filters_onColumns part, filtersOf_onColumnsOf parts]

end

theorem filtersOfPart_onColumnsPart (p : Option Predicate) :
    filtersOfPart (onColumnsPart p) = filtersOfPart p := by
  cases p with
  | none => rfl
  | some p => exact p.filters_onColumns

theorem forall_mem_columnNamesOf {parts : List Predicate} {P : String → Prop} :
    (∀ name ∈ columnNamesOf parts, P name) ↔
      ∀ part ∈ parts, ∀ name ∈ part.columnNames, P name := by
  induction parts with
  | nil => simp [columnNamesOf]
  | cons part parts ih =>
    rw [columnNamesOf, List.forall_mem_append, List.forall_mem_cons, ih]

end Predicate

end ReportQuery
