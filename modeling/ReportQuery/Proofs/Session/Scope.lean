import ReportQuery.Session
import ReportQuery.Proofs.Connector.Plan
import ReportQuery.Proofs.Connector.Run

namespace ReportQuery

/-- A request for the rows of a scope alone: the leaf of the scope stands first among the
conditions on dimensions, none of them is nested, and the dimension of the scope is asked for. -/
structure Report.ScopedBy (scope : Scope) (r : Report) : Prop where
  dimensionFilter : r.dimensionFilter = some (.leaf scope.leaf) ∨
    ∃ leaves : List Leaf, leaves ≠ [] ∧
      r.dimensionFilter = some (.group ((scope.leaf :: leaves).map .leaf))
  metricFilter : r.metricFilter = none ∨ (∃ leaf, r.metricFilter = some (.leaf leaf)) ∨
    ∃ leaves : List Leaf, 2 ≤ leaves.length ∧ r.metricFilter = some (.group (leaves.map .leaf))
  dimensionNames : r.dimensionNames.count scope.dimension = 1

theorem FilterTree.ofLeaves_cases (leaves : List Leaf) :
    (leaves = [] ∧ ofLeaves leaves = none) ∨
      (∃ leaf, leaves = [leaf] ∧ ofLeaves leaves = some (.leaf leaf)) ∨
      2 ≤ leaves.length ∧ ofLeaves leaves = some (.group (leaves.map .leaf)) := by
  rcases leaves with _ | ⟨first, _ | ⟨second, rest⟩⟩
  · exact .inl ⟨rfl, rfl⟩
  · exact .inr (.inl ⟨first, rfl, rfl⟩)
  · exact .inr (.inr ⟨by simp, rfl⟩)

theorem Report.count_dimensionsFor (s : Selection) (scope : Scope) :
    (dimensionsFor s scope).count scope.dimension = 1 := by
  have hn : (dimensionsFor s scope).Nodup := nodup_addName (nodup_distinct _)
  have hm : scope.dimension ∈ dimensionsFor s scope := mem_addName.mpr (.inr rfl)
  rw [hn.count, if_pos hm]

namespace Connector

variable {c : Connector} {q : Query} {p : Plan}

theorem scopedBy_planOf (dimension metric : List Leaf) (dates : DateRange) :
    (c.planOf q dimension metric dates).report.ScopedBy c.scope := by
  refine ⟨?_, ?_, Report.count_dimensionsFor _ _⟩
  · change FilterTree.ofLeaves (c.scope.leaf :: dimension) = _ ∨
      ∃ _, _ ∧ FilterTree.ofLeaves (c.scope.leaf :: dimension) = _
    cases dimension with
    | nil => exact .inl rfl
    | cons leaf leaves => exact .inr ⟨leaf :: leaves, List.cons_ne_nil _ _, rfl⟩
  · change FilterTree.ofLeaves metric = _ ∨ (∃ _, FilterTree.ofLeaves metric = _) ∨
      ∃ _, _ ∧ FilterTree.ofLeaves metric = _
    rcases FilterTree.ofLeaves_cases metric with ⟨-, h⟩ | ⟨leaf, -, h⟩ | ⟨hl, h⟩
    · exact .inl h
    · exact .inr (.inl ⟨leaf, h⟩)
    · exact .inr (.inr ⟨metric, hl, h⟩)

theorem scopedBy_of_plan (hp : c.plan q = .ok p) : p.report.ScopedBy c.scope := by
  obtain ⟨dimension, metric, dates, -, -, -, rfl⟩ := plan_eq_ok_iff.mp hp
  exact scopedBy_planOf dimension metric dates

end Connector

namespace Session

def scopeAfter (scope : Scope) : List Step → Scope
  | [] => scope
  | .scope next :: steps => scopeAfter next steps
  | _ :: steps => scopeAfter scope steps

theorem step_connector (s : Session) (step : Step) :
    (s.step step).1.connector =
      ⟨s.connector.propertyId, scopeAfter s.connector.scope [step]⟩ := by
  cases step <;> rfl

theorem scopeAfter_cons (scope : Scope) (step : Step) (steps : List Step) :
    scopeAfter scope (step :: steps) = scopeAfter (scopeAfter scope [step]) steps := by
  cases step <;> rfl

theorem run_connector (s : Session) (steps : List Step) :
    (s.run steps).1.connector =
      ⟨s.connector.propertyId, scopeAfter s.connector.scope steps⟩ := by
  induction steps generalizing s with
  | nil => rfl
  | cons step steps ih =>
    change ((s.step step).1.run steps).1.connector = _
    rw [scopeAfter_cons, ih, step_connector]

/-- An answer that shows no request but those under a scope. -/
def Answer.ScopedBy (scope : Scope) : Answer → Prop
  | .planned (.ok report) => report.ScopedBy scope
  | .explained (.ok json) => ∃ (text : String) (report : Report),
      json = .obj [("predicate", .str text), ("report_request", report.toJson)] ∧
        report.ScopedBy scope
  | _ => True

variable {s : Session}

theorem planned_scopedBy (q : Query) :
    (s.step (.plan q)).2.ScopedBy s.connector.scope := by
  change (Answer.planned ((s.connector.plan q).map (·.report))).ScopedBy s.connector.scope
  cases hp : s.connector.plan q with
  | error e => trivial
  | ok p => exact Connector.scopedBy_of_plan hp

theorem explained_scopedBy (q : Query) :
    (s.step (.explain q)).2.ScopedBy s.connector.scope := by
  change (Answer.explained (s.connector.explain q)).ScopedBy s.connector.scope
  rw [Connector.explain]
  cases hp : s.connector.plan q with
  | error e => trivial
  | ok p => exact ⟨_, p.report, rfl, Connector.scopedBy_of_plan hp⟩

theorem step_sent_of_query (q : Query) : ∃ new, (s.step (.query q)).1.sent = s.sent ++ new ∧
    ∀ r ∈ new, r.ScopedBy s.connector.scope := by
  refine ⟨_, rfl, ?_⟩
  cases hp : s.connector.plan q with
  | error e =>
    rw [Connector.query_sent_of_rejected hp]
    intro r hr
    cases hr
  | ok p =>
    rw [Connector.query_sent_of_plan hp]
    intro r hr
    rw [List.mem_singleton.mp hr]
    exact Connector.scopedBy_of_plan hp

theorem step_scopedBy (s : Session) (step : Step) :
    (∃ new, (s.step step).1.sent = s.sent ++ new ∧ ∀ r ∈ new, r.ScopedBy s.connector.scope) ∧
      (s.step step).2.ScopedBy s.connector.scope := by
  have hnone : ∃ new, s.sent = s.sent ++ new ∧ ∀ r ∈ new, r.ScopedBy s.connector.scope :=
    ⟨[], by simp, by simp⟩
  cases step with
  | rows rows => exact ⟨hnone, trivial⟩
  | failure failure => exact ⟨hnone, trivial⟩
  | scope scope => exact ⟨hnone, trivial⟩
  | query q => exact ⟨step_sent_of_query q, trivial⟩
  | plan q => exact ⟨hnone, planned_scopedBy q⟩
  | explain q => exact ⟨hnone, explained_scopedBy q⟩

/-- In any session, each step sends and shows requests under the scope that was last set. -/
theorem run_scopedBy (c : Connector) (traceId : String) (before : List Step) (step : Step) :
    let s := ((start c traceId).run before).1
    let scope := scopeAfter c.scope before
    (∃ new, (s.step step).1.sent = s.sent ++ new ∧ ∀ r ∈ new, r.ScopedBy scope) ∧
      (s.step step).2.ScopedBy scope := by
  intro s scope
  have hs : s.connector.scope = scope := by
    change ((start c traceId).run before).1.connector.scope = scope
    rw [run_connector]
    rfl
  rw [← hs]
  exact step_scopedBy s step

end Session

end ReportQuery
