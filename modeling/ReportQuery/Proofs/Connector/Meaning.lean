import ReportQuery.Meaning
import ReportQuery.Proofs.Connector.Plan
import ReportQuery.Proofs.Predicate.Placement

namespace ReportQuery

variable {Number : Type} {m : Matching Number} {r : DataRow Number}

@[simp]
theorem FilterTree.admitsIn_ofLeaves {list : List Leaf} :
    AdmitsIn m r (ofLeaves list) ↔ ∀ leaf ∈ list, leaf.Admits m r := by
  match list with
  | [] => simp [ofLeaves, AdmitsIn]
  | [l] => simp [ofLeaves, AdmitsIn, Admits]
  | l :: l' :: rest =>
    simp [ofLeaves, AdmitsIn, Admits, AdmitAll, admitAll_iff]

@[simp]
theorem Scope.admits_leaf {s : Scope} : s.leaf.Admits m r ↔ r.dimension s.dimension = s.value :=
  .rfl

theorem compares_iff {column operator : String} {v : Json} :
    Compares m r column operator v ↔
      (∃ x s, column = "dimension_" ++ x ∧ v = .str s ∧
        (operator = "_eq" ∧ r.dimension x = s ∨ operator = "_like" ∧ m.pattern s (r.dimension x))) ∨
      ∃ x d, column = "metric_" ++ x ∧ v.toNumber = .ok (some d) ∧
        (operator = "_eq" ∧ m.number .equal (r.metric x) d ∨
          operator = "_gt" ∧ m.number .greater (r.metric x) d ∨
          operator = "_lt" ∧ m.number .less (r.metric x) d) := by
  constructor
  · intro h
    cases h with
    | equalText h => exact .inl ⟨_, _, rfl, rfl, .inl ⟨rfl, h⟩⟩
    | like h => exact .inl ⟨_, _, rfl, rfl, .inr ⟨rfl, h⟩⟩
    | equalNumber hv h => exact .inr ⟨_, _, rfl, hv, .inl ⟨rfl, h⟩⟩
    | greater hv h => exact .inr ⟨_, _, rfl, hv, .inr (.inl ⟨rfl, h⟩)⟩
    | less hv h => exact .inr ⟨_, _, rfl, hv, .inr (.inr ⟨rfl, h⟩)⟩
  · intro h
    rcases h with ⟨x, s, rfl, rfl, ⟨rfl, h⟩ | ⟨rfl, h⟩⟩ |
      ⟨x, d, rfl, hv, ⟨rfl, h⟩ | ⟨rfl, h⟩ | ⟨rfl, h⟩⟩
    · exact .equalText h
    · exact .like h
    · exact .equalNumber hv h
    · exact .greater hv h
    · exact .less hv h

theorem compares_dimension_iff {x s operator : String} :
    Compares m r ("dimension_" ++ x) operator (.str s) ↔
      operator = "_eq" ∧ r.dimension x = s ∨ operator = "_like" ∧ m.pattern s (r.dimension x) := by
  simp [compares_iff]

theorem compares_metric_iff {x operator : String} {v : Json} {d : Double}
    (hv : v.toNumber = .ok (some d)) :
    Compares m r ("metric_" ++ x) operator v ↔
      operator = "_eq" ∧ m.number .equal (r.metric x) d ∨
        operator = "_gt" ∧ m.number .greater (r.metric x) d ∨
        operator = "_lt" ∧ m.number .less (r.metric x) d := by
  simp [compares_iff, hv]

namespace Clause

/-- Whether a row passes a clause. Only comparisons are clauses that rows can pass. -/
def Admits (m : Matching Number) (r : DataRow Number) : Clause → Prop
  | comparison target operator operand =>
    (Predicate.comparison target operator operand).Admits m r
  | _ => False

theorem Leads.admits_iff {clause : Clause} {place : Place} (h : clause.Leads place) :
    clause.Admits m r ↔ place.leaf.Admits m r := by
  cases h with
  | exact ht =>
    rw [Admits, Predicate.Admits, ht, compares_dimension_iff]
    simp [Leaf.Admits]
  | pattern ht =>
    rw [Admits, Predicate.Admits, ht, compares_dimension_iff]
    simp [Leaf.Admits]
  | equal ht hv =>
    rw [Admits, Predicate.Admits, ht, compares_metric_iff hv]
    simp [Leaf.Admits]
  | greater ht hv =>
    rw [Admits, Predicate.Admits, ht, compares_metric_iff hv]
    simp [Leaf.Admits]
  | less ht hv =>
    rw [Admits, Predicate.Admits, ht, compares_metric_iff hv]
    simp [Leaf.Admits]

def IsComparison (clause : Clause) : Prop :=
  ∃ target operator operand, clause = .comparison target operator operand

theorem Leads.isComparison {clause : Clause} {place : Place} (h : clause.Leads place) :
    clause.IsComparison := by
  cases h <;> exact ⟨_, _, _, rfl⟩

theorem isComparison_of_places {clauses : List Clause} {places : List Place}
    (h : List.Forall₂ Leads clauses places) : ∀ clause ∈ clauses, clause.IsComparison := by
  intro clause hc
  obtain ⟨place, hl⟩ := exists_forall₂_iff.mp ⟨places, h⟩ clause hc
  exact hl.isComparison

end Clause

namespace Predicate

mutual

theorem admits_iff_clauses : (p : Predicate) →
    (∀ clause ∈ p.clauses, clause.IsComparison) →
    (p.Admits m r ↔ ∀ clause ∈ p.clauses, clause.Admits m r)
  | all parts, h => by
    rw [clauses] at h ⊢
    rw [Admits]
    exact admitAll_iff_clausesOf parts h
  | comparison .., _ => by
    rw [clauses, List.forall_mem_singleton]
    rfl
  | any parts, h => by
    rw [clauses] at h
    obtain ⟨_, _, _, he⟩ := h _ List.mem_cons_self
    cases he
  | not _, h | existence .., h | unary .., h | unknown .., h => by
    rw [clauses] at h
    obtain ⟨_, _, _, he⟩ := h _ (List.mem_singleton_self _)
    cases he

theorem admitAll_iff_clausesOf : (parts : List Predicate) →
    (∀ clause ∈ clausesOf parts, clause.IsComparison) →
    (AdmitAll m r parts ↔ ∀ clause ∈ clausesOf parts, clause.Admits m r)
  | [], _ => by simp [AdmitAll, clausesOf]
  | part :: parts, h => by
    rw [clausesOf, List.forall_mem_append] at h ⊢
    rw [AdmitAll, admits_iff_clauses part h.1, admitAll_iff_clausesOf parts h.2]

end

theorem admitsIn_iff_clauses {p : Option Predicate}
    (h : ∀ clause ∈ clausesOfPart p, clause.IsComparison) :
    AdmitsIn m r p ↔ ∀ clause ∈ clausesOfPart p, clause.Admits m r := by
  cases p with
  | none => simp [AdmitsIn, clausesOfPart]
  | some p => exact p.admits_iff_clauses h

end Predicate

theorem forall_admits_iff_of_places {clauses : List Clause} {places : List Place}
    (h : List.Forall₂ Clause.Leads clauses places) :
    (∀ clause ∈ clauses, clause.Admits m r) ↔
      (∀ leaf ∈ leavesOn .dimension places, leaf.Admits m r) ∧
        ∀ leaf ∈ leavesOn .metric places, leaf.Admits m r := by
  induction h with
  | nil => simp [leavesOn]
  | @cons clause place clauses places hl hp ih =>
    rw [List.forall_mem_cons, ih, hl.admits_iff]
    obtain ⟨kind, leaf⟩ := place
    cases kind with
    | dimension =>
      have hd : leavesOn .dimension (⟨.dimension, leaf⟩ :: places) =
        leaf :: leavesOn .dimension places := rfl
      have hm : leavesOn .metric (⟨.dimension, leaf⟩ :: places) = leavesOn .metric places := rfl
      rw [hd, hm, List.forall_mem_cons, and_assoc]
    | metric =>
      have hd : leavesOn .dimension (⟨.metric, leaf⟩ :: places) = leavesOn .dimension places := rfl
      have hm : leavesOn .metric (⟨.metric, leaf⟩ :: places) =
        leaf :: leavesOn .metric places := rfl
      rw [hd, hm, List.forall_mem_cons, and_left_comm]

namespace Connector

/-- The trees of a plan admit the rows within the scope that the predicate admits. Their leaves
are that of the scope and, in the order of the clauses, one for each comparison. -/
theorem plan_admits_iff {c : Connector} {q : Query} {p : Plan} (h : c.plan q = .ok p) :
    (∃ places, List.Forall₂ Clause.Leads (Predicate.clausesOfPart q.predicate) places ∧
      FilterTree.leavesIn p.report.dimensionFilter = c.scope.leaf :: leavesOn .dimension places ∧
      FilterTree.leavesIn p.report.metricFilter = leavesOn .metric places) ∧
    ∀ {Number : Type} (m : Matching Number) (r : DataRow Number),
      (FilterTree.AdmitsIn m r p.report.dimensionFilter ∧
        FilterTree.AdmitsIn m r p.report.metricFilter) ↔
      r.dimension c.scope.dimension = c.scope.value ∧ Predicate.AdmitsIn m r q.predicate := by
  obtain ⟨dimension, metric, dates, hl, -, -, rfl⟩ := plan_eq_ok_iff.mp h
  obtain ⟨places, hp, rfl, rfl⟩ := hl.places
  refine ⟨⟨places, hp, FilterTree.leavesIn_ofLeaves _, FilterTree.leavesIn_ofLeaves _⟩, ?_⟩
  intro Number m r
  rw [Predicate.admitsIn_iff_clauses (Clause.isComparison_of_places hp),
    forall_admits_iff_of_places hp]
  change (FilterTree.AdmitsIn m r (FilterTree.ofLeaves (c.scope.leaf :: _)) ∧
    FilterTree.AdmitsIn m r (FilterTree.ofLeaves _)) ↔ _
  rw [FilterTree.admitsIn_ofLeaves, FilterTree.admitsIn_ofLeaves, List.forall_mem_cons,
    Scope.admits_leaf, and_assoc]

theorem plan_admits_iff_visits :
    ofShop.plan .visits = .ok .visits ∧
      (∃ places, List.Forall₂ Clause.Leads (Predicate.clausesOfPart Query.visits.predicate) places ∧
        FilterTree.leavesIn Report.visits.dimensionFilter =
          ofShop.scope.leaf :: leavesOn .dimension places ∧
        FilterTree.leavesIn Report.visits.metricFilter = leavesOn .metric places) ∧
      ∀ {Number : Type} (m : Matching Number) (r : DataRow Number),
        (FilterTree.AdmitsIn m r Report.visits.dimensionFilter ∧
          FilterTree.AdmitsIn m r Report.visits.metricFilter) ↔
        r.dimension "hostName" = "shop.example.com" ∧
          Predicate.AdmitsIn m r Query.visits.predicate :=
  ⟨plan_visits, plan_admits_iff plan_visits⟩

end Connector

end ReportQuery
