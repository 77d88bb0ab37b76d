import ReportQuery.Filter.Assembly

namespace ReportQuery

inductive Clause where
  | comparison (target : Target) (operator : String) (operand : Operand)
  | disjunction (conditions : Nat)
  | negation
  | existence
  | unary (operator : String)
  | unknown (type : String)

/-- The filter of a clause, or the defect that it has none. -/
def Clause.verdict : Clause → Except Defect Filter
  | comparison target operator operand => Filter.ofComparison target operator operand
  | disjunction conditions => .error (.disjunction conditions)
  | negation => .error .negation
  | existence => .error .existence
  | unary operator => .error (.unaryComparison operator)
  | unknown type => .error (.unknownPredicate type)

namespace Predicate

mutual

def clauses : Predicate → List Clause
  | all parts => clausesOf parts
  | any parts => .disjunction parts.length :: clausesOf parts
  | not _ => [.negation]
  | existence .. => [.existence]
  | unary _ operator => [.unary operator]
  | comparison target operator operand => [.comparison target operator operand]
  | unknown type _ => [.unknown type]

def clausesOf : List Predicate → List Clause
  | [] => []
  | part :: parts => clauses part ++ clausesOf parts

end

def clausesOfPart : Option Predicate → List Clause
  | none => []
  | some p => p.clauses

end Predicate

namespace FilterLists

/-- The lists of verdicts: the filters by their kinds, and the defects. -/
def ofVerdicts (verdicts : List (Except Defect Filter)) : FilterLists where
  dimension := (results verdicts).filter (·.kind = .dimension)
  metric := (results verdicts).filter (·.kind = .metric)
  defects := failures verdicts

theorem ofVerdicts_append (verdicts more : List (Except Defect Filter)) :
    ofVerdicts (verdicts ++ more) = (ofVerdicts verdicts).append (ofVerdicts more) := by
  simp [ofVerdicts, append]

theorem ofVerdicts_ok (f : Filter) : ofVerdicts [.ok f] = ofFilter f := by
  rcases f with ⟨column, base, operator, value, kind⟩
  cases kind <;> rfl

end FilterLists

namespace Predicate

mutual

theorem filters_eq_ofVerdicts : (p : Predicate) →
    p.filters = .ofVerdicts (p.clauses.map Clause.verdict)
  | all parts => by
    rw [filters, clauses, filtersOf_eq_ofVerdicts parts]
  | any parts => by
    rw [filters, clauses, filtersOf_eq_ofVerdicts parts, List.map_cons, ← List.singleton_append,
      FilterLists.ofVerdicts_append]
    rfl
  | not _ => by rw [filters, clauses]; rfl
  | existence .. => by rw [filters, clauses]; rfl
  | unary .. => by rw [filters, clauses]; rfl
  | unknown .. => by rw [filters, clauses]; rfl
  | comparison target operator operand => by
    rw [filters, clauses, List.map_singleton, Clause.verdict]
    cases Filter.ofComparison target operator operand with
    | ok f => exact (FilterLists.ofVerdicts_ok f).symm
    | error d => rfl

theorem filtersOf_eq_ofVerdicts : (parts : List Predicate) →
    filtersOf parts = .ofVerdicts ((clausesOf parts).map Clause.verdict)
  | [] => rfl
  | part :: parts => by
    rw [filtersOf, clausesOf, filters_eq_ofVerdicts part, filtersOf_eq_ofVerdicts parts,
      List.map_append, FilterLists.ofVerdicts_append]

end

theorem filtersOfPart_eq_ofVerdicts (p : Option Predicate) :
    filtersOfPart p = .ofVerdicts ((clausesOfPart p).map Clause.verdict) := by
  cases p with
  | none => rfl
  | some p => exact p.filters_eq_ofVerdicts

end Predicate

end ReportQuery
