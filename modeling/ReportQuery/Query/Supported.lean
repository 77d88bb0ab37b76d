import ReportQuery.Double.Numeral
import ReportQuery.Query

namespace ReportQuery

/-- A literal with a finite number: an integer or another number whose nearest double is finite, or
a text that writes such a number. -/
inductive FiniteLiteral : Json → Prop where
  | integer {n : Int} : (Double.ofInt n).isFinite → FiniteLiteral (.int n)
  | number {x : Double} : x.isFinite → FiniteLiteral (.float x)
  | text {s : String} {x : Double} :
    Double.ofFreeText? s = some x → x.isFinite → FiniteLiteral (.str s)

/-- Whether a literal can be compared by an operator with the column of a name. -/
inductive SupportedComparison : (column operator : String) → Json → Prop where
  | dimension {x s operator : String} :
    operator ∈ ["_eq", "_like"] → SupportedComparison ("dimension_" ++ x) operator (.str s)
  | metric {x operator : String} {v : Json} :
    operator ∈ ["_eq", "_gt", "_lt"] → FiniteLiteral v →
      SupportedComparison ("metric_" ++ x) operator v

/-- Conjunctions, nested to any depth, of supported comparisons with literals. -/
inductive SupportedPredicate : Predicate → Prop where
  | all {parts : List Predicate} :
    (∀ part ∈ parts, SupportedPredicate part) → SupportedPredicate (.all parts)
  | comparison {target : Target} {operator : String} {v : Json} :
    SupportedComparison target.name operator v →
      SupportedPredicate (.comparison target operator (.scalar v))

def SupportedColumn (column : String) : Prop :=
  ∃ x, column = "dimension_" ++ x ∨ column = "metric_" ++ x

def slashShapes : List String := ["#/#/####", "#/##/####", "##/#/####", "##/##/####"]

inductive SupportedDate : Json → Prop where
  | plain {s : String} : DateRange.fits "####-##-##".toList s.toList → SupportedDate (.str s)
  | timed {s : String} :
    DateRange.fits "####-##-##T##:##:##".toList s.toList → SupportedDate (.str s)
  | slashed {shape : String} {s : String} :
    shape ∈ slashShapes → DateRange.fits shape.toList s.toList → SupportedDate (.str s)

def SupportedBound (first second : String) (value : Entries Json) : Prop :=
  ∃ v, SupportedDate v ∧ (Entries.get? first value = some v ∨
    (∀ w, Entries.get? first value = some w → w.isPresent = false) ∧
      Entries.get? second value = some v)

def SupportedDates : Option DateArgument → Prop
  | none => True
  | some argument => argument.type ≠ "literal" ∨
    SupportedBound "start_date" "startDate" argument.value ∧
      SupportedBound "end_date" "endDate" argument.value

structure Query.Supported (q : Query) : Prop where
  predicate : ∀ p, q.predicate = some p → SupportedPredicate p
  fields : ∀ field ∈ q.fields, SupportedColumn field.2
  dates : SupportedDates q.dates

end ReportQuery
