import ReportQuery.Report.Wire

namespace ReportQuery.Wire

def MatchType.toTextMatch : MatchType → TextMatch
  | exact => .exact
  | partialRegexp => .partialRegexp

def Operation.toComparison : Operation → NumberComparison
  | equal => .equal
  | lessThan => .less
  | greaterThan => .greater

def Condition.toTest : Condition → LeafTest
  | string value matchType => .text value matchType.toTextMatch
  | numeric operation value => .number operation.toComparison value

@[simp]
theorem MatchType.toTextMatch_ofTextMatch (t : TextMatch) :
    (MatchType.ofTextMatch t).toTextMatch = t := by
  cases t <;> rfl

@[simp]
theorem Operation.toComparison_ofComparison (c : NumberComparison) :
    (Operation.ofComparison c).toComparison = c := by
  cases c <;> rfl

theorem Condition.toTest_ofTest (t : LeafTest) : (Condition.ofTest t).toTest = t := by
  cases t with
  | text value matching => simp [Condition.ofTest, Condition.toTest]
  | number comparison value => simp [Condition.ofTest, Condition.toTest]

namespace Expression

mutual

def toTree : Expression → FilterTree
  | filter field condition => .leaf ⟨field, condition.toTest⟩
  | andGroup parts => .group (toTrees parts)

def toTrees : List Expression → List FilterTree
  | [] => []
  | part :: parts => toTree part :: toTrees parts

end

mutual

theorem toTree_ofTree : ∀ tree : FilterTree, toTree (ofTree tree) = tree
  | .leaf l => by rw [ofTree, toTree, Condition.toTest_ofTest]
  | .group parts => by rw [ofTree, toTree, toTrees_ofTrees parts]

theorem toTrees_ofTrees : ∀ parts : List FilterTree, toTrees (ofTrees parts) = parts
  | [] => by rw [ofTrees, toTrees]
  | part :: parts => by rw [ofTrees, toTrees, toTree_ofTree part, toTrees_ofTrees parts]

end

end Expression

/-- The report of a request, if the request has the path of a property and a single range. -/
def Request.toReport? (r : Request) : Option Report :=
  match afterFront? (Report.pathOf "").toList r.property.toList, r.dateRanges with
  | some id, [(first, last)] =>
    some
      { propertyId := String.ofList id
        dates := ⟨first, last⟩
        dimensionNames := r.dimensions
        metricNames := r.metrics
        limit := r.limit.val
        dimensionFilter := r.dimensionFilter.map Expression.toTree
        metricFilter := r.metricFilter.map Expression.toTree }
  | _, _ => none

end ReportQuery.Wire
