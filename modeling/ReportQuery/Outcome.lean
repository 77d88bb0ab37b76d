import ReportQuery.Defect

namespace ReportQuery

structure Outcome (α : Type) where
  ok : Bool
  data : Option α
  defects : List Defect
  warnings : List Defect

namespace Outcome

variable {α : Type}

def success (data : α) (warnings : List Defect) : Outcome α := ⟨true, some data, [], warnings⟩

def failure (defects warnings : List Defect) : Outcome α := ⟨false, none, defects, warnings⟩

def collect (data : α) (defects warnings : List Defect) : Outcome α :=
  ⟨defects.isEmpty, some data, defects, warnings⟩

def dump (data : α → Json) (o : Outcome α) : Except DumpError Json := do
  let errors ← o.defects.mapM fun d => d.message.dump
  let warnings ← o.warnings.mapM fun d => d.message.dump
  pure (.obj [("ok", .bool o.ok), ("data", .ofOption data o.data), ("errors", .arr errors),
    ("warnings", .arr warnings)])

def unwrap (o : Outcome α) : Except (List Defect) (Option α) :=
  if o.ok then .ok o.data else .error o.defects

end Outcome

def classify (column : String) : Outcome ColumnRef :=
  match ColumnRef.ofName? column with
  | some ref => .success ref []
  | none => .failure [.unclassifiableColumn column none] []

end ReportQuery
