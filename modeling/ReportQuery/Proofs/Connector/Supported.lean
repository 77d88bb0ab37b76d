import ReportQuery.Proofs.Connector.Plan
import ReportQuery.Proofs.DateRange
import ReportQuery.Proofs.Predicate.Placement
import ReportQuery.Query.Supported

namespace ReportQuery

theorem exists_toNumber_iff {v : Json} :
    (∃ d, v.toNumber = .ok (some d)) ↔ FiniteLiteral v := by
  constructor
  · intro h
    obtain ⟨d, hd⟩ := h
    cases v with
    | int n =>
      have hn : (Double.ofInt? n).map some = .ok (some d) := hd
      obtain ⟨x, hx, -⟩ := map_eq_ok_iff.mp hn
      rw [Double.ofInt?] at hx
      split at hx
      · next hf => exact .integer hf
      · cases hx
    | float x =>
      have hx : x.finite? = some d := Except.ok.inj hd
      rw [Double.finite?] at hx
      split at hx
      · next hf => exact .number hf
      · cases hx
    | str s =>
      have hs : (Double.ofFreeText? s).bind Double.finite? = some d := Except.ok.inj hd
      obtain ⟨x, hx, hfinite⟩ := Option.bind_eq_some_iff.mp hs
      rw [Double.finite?] at hfinite
      split at hfinite
      · next hf => exact .text hx hf
      · cases hfinite
    | _ => cases hd
  · intro h
    cases h with
    | @integer n hf =>
      have hn : Double.ofInt? n = .ok (Double.ofInt n) := if_pos hf
      exact ⟨_, map_eq_ok_iff.mpr ⟨_, hn, rfl⟩⟩
    | @number x hf =>
      have hx : x.finite? = some x := if_pos hf
      exact ⟨x, congrArg Except.ok hx⟩
    | @text s x hs hf =>
      have hx : x.finite? = some x := if_pos hf
      exact ⟨x, congrArg Except.ok (Option.bind_eq_some_iff.mpr ⟨x, hs, hx⟩)⟩

namespace Clause

theorem exists_leads_comparison_iff {target : Target} {operator : String} {operand : Operand} :
    (∃ place, (comparison target operator operand).Leads place) ↔
      ∃ v, operand = .scalar v ∧ SupportedComparison target.name operator v := by
  constructor
  · intro h
    obtain ⟨place, h⟩ := h
    cases h with
    | exact ht =>
      rw [ht]
      exact ⟨_, rfl, .dimension (by decide)⟩
    | pattern ht =>
      rw [ht]
      exact ⟨_, rfl, .dimension (by decide)⟩
    | equal ht hv =>
      rw [ht]
      exact ⟨_, rfl, .metric (by decide) (exists_toNumber_iff.mp ⟨_, hv⟩)⟩
    | greater ht hv =>
      rw [ht]
      exact ⟨_, rfl, .metric (by decide) (exists_toNumber_iff.mp ⟨_, hv⟩)⟩
    | less ht hv =>
      rw [ht]
      exact ⟨_, rfl, .metric (by decide) (exists_toNumber_iff.mp ⟨_, hv⟩)⟩
  · intro h
    obtain ⟨v, rfl, h⟩ := h
    generalize ht : target.name = column at h
    cases h with
    | dimension ho =>
      simp only [List.mem_cons, List.not_mem_nil, or_false] at ho
      rcases ho with rfl | rfl
      · exact ⟨_, .exact ht⟩
      · exact ⟨_, .pattern ht⟩
    | metric ho hv =>
      obtain ⟨d, hd⟩ := exists_toNumber_iff.mpr hv
      simp only [List.mem_cons, List.not_mem_nil, or_false] at ho
      rcases ho with rfl | rfl | rfl
      · exact ⟨_, .equal ht hd⟩
      · exact ⟨_, .greater ht hd⟩
      · exact ⟨_, .less ht hd⟩

end Clause

namespace Predicate

mutual

/-- A predicate is supported exactly if each of its clauses leads to a place. A node of another kind
than a conjunction or a comparison is a clause of its own, and leads nowhere. -/
theorem supported_iff_clauses : (p : Predicate) →
    (SupportedPredicate p ↔ ∀ clause ∈ p.clauses, ∃ place, clause.Leads place)
  | all parts => by
    rw [clauses, ← allSupported_iff_clausesOf parts]
    constructor
    · intro h
      cases h with
      | all h => exact h
    · intro h
      exact .all h
  | comparison target operator operand => by
    rw [clauses, List.forall_mem_singleton, Clause.exists_leads_comparison_iff]
    constructor
    · intro h
      cases h with
      | comparison h => exact ⟨_, rfl, h⟩
    · intro h
      obtain ⟨v, rfl, h⟩ := h
      exact .comparison h
  | any parts => by
    rw [clauses, List.forall_mem_cons]
    exact iff_of_false (fun h => nomatch h) (fun h => nomatch h.1)
  | not _ | existence .. | unary .. | unknown .. => by
    rw [clauses, List.forall_mem_singleton]
    exact iff_of_false (fun h => nomatch h) (fun h => nomatch h)

theorem allSupported_iff_clausesOf : (parts : List Predicate) →
    ((∀ part ∈ parts, SupportedPredicate part) ↔
      ∀ clause ∈ clausesOf parts, ∃ place, clause.Leads place)
  | [] => by
    rw [clausesOf]
    exact iff_of_true (fun _ h => nomatch h) (fun _ h => nomatch h)
  | part :: parts => by
    rw [clausesOf, List.forall_mem_append, List.forall_mem_cons, supported_iff_clauses part,
      allSupported_iff_clausesOf parts]

end

theorem supportedPart_iff_clauses {p : Option Predicate} :
    (∀ part, p = some part → SupportedPredicate part) ↔
      ∀ clause ∈ clausesOfPart p, ∃ place, clause.Leads place := by
  cases p with
  | none => exact iff_of_true (fun _ h => nomatch h) (fun _ h => nomatch h)
  | some p =>
    simp only [Option.some.injEq, forall_eq']
    exact p.supported_iff_clauses

end Predicate

theorem exists_ofName?_iff {column : String} :
    (∃ ref, ColumnRef.ofName? column = some ref) ↔ SupportedColumn column := by
  simp only [ColumnRef.ofName?_eq_some_iff]
  constructor
  · intro h
    obtain ⟨⟨name, base, kind⟩, -, hb⟩ := h
    cases kind with
    | dimension => exact ⟨base, .inl hb.symm⟩
    | metric => exact ⟨base, .inr hb.symm⟩
  · intro h
    obtain ⟨x, h | h⟩ := h
    · exact ⟨⟨column, x, .dimension⟩, rfl, h.symm⟩
    · exact ⟨⟨column, x, .metric⟩, rfl, h.symm⟩

namespace Connector

variable {c : Connector} {q : Query}

theorem exists_prepare_iff :
    (∃ parts, c.prepare q = .ok parts) ↔
      (∀ p, q.predicate = some p → SupportedPredicate p) ∧
        ∀ field ∈ q.fields, SupportedColumn field.2 := by
  simp only [Predicate.supportedPart_iff_clauses, ← exists_forall₂_iff (R := Clause.Leads),
    ← exists_hasLeaves_iff, ← exists_ofName?_iff, ← Selection.defects_eq_nil_iff]
  constructor
  · intro h
    obtain ⟨⟨filters, selection⟩, h⟩ := h
    obtain ⟨⟨dimension, metric, hl, -⟩, hs, -⟩ := prepare_eq_ok_iff.mp h
    exact ⟨⟨dimension, metric, hl⟩, hs⟩
  · intro h
    obtain ⟨⟨dimension, metric, hl⟩, hs⟩ := h
    exact ⟨_, prepare_eq_ok_iff.mpr ⟨⟨dimension, metric, hl, rfl⟩, hs, rfl⟩⟩

/-- Dates are the error of a plan exactly if they are all that is not supported. -/
theorem plan_unsupportedDate_iff :
    (∃ date, c.plan q = .error (.unsupportedDate date)) ↔
      ((∀ p, q.predicate = some p → SupportedPredicate p) ∧
        ∀ field ∈ q.fields, SupportedColumn field.2) ∧ ¬ SupportedDates q.dates := by
  rw [← exists_prepare_iff (c := c), ← DateRange.exists_resolve_iff]
  constructor
  · intro h
    obtain ⟨date, hp⟩ := h
    obtain hprepare | ⟨hparts, other, hr, -⟩ := plan_eq_error_iff.mp hp
    · obtain ⟨_, -, h⟩ | ⟨_, -, -, h⟩ := prepare_eq_error_iff.mp hprepare
      · cases h
      · cases h
    · refine ⟨hparts, ?_⟩
      rintro ⟨range, hrange⟩
      rw [hr] at hrange
      cases hrange
  · intro h
    obtain ⟨hparts, hdates⟩ := h
    cases hr : DateRange.resolve q.dates with
    | ok range => exact absurd ⟨range, hr⟩ hdates
    | error date => exact ⟨date, plan_eq_error_iff.mpr (.inr ⟨hparts, date, hr, rfl⟩)⟩

theorem exists_plan_iff :
    (∃ p, c.plan q = .ok p) ↔
      (∃ parts, c.prepare q = .ok parts) ∧ ∃ dates, DateRange.resolve q.dates = .ok dates := by
  constructor
  · intro h
    obtain ⟨p, hp⟩ := h
    obtain ⟨dimension, metric, dates, hl, hs, hr, -⟩ := plan_eq_ok_iff.mp hp
    exact ⟨⟨_, prepare_eq_ok_iff.mpr ⟨⟨dimension, metric, hl, rfl⟩, hs, rfl⟩⟩, ⟨dates, hr⟩⟩
  · intro h
    obtain ⟨⟨⟨filters, selection⟩, hp⟩, ⟨dates, hr⟩⟩ := h
    obtain ⟨⟨dimension, metric, hl, -⟩, hs, -⟩ := prepare_eq_ok_iff.mp hp
    exact ⟨_, plan_eq_ok_iff.mpr ⟨dimension, metric, dates, hl, hs, hr, rfl⟩⟩

/-- A query has a plan exactly if it is of the supported language. -/
theorem exists_plan_iff_supported (c : Connector) (q : Query) :
    (∃ p, c.plan q = .ok p) ↔ q.Supported := by
  rw [exists_plan_iff, exists_prepare_iff, DateRange.exists_resolve_iff]
  constructor
  · intro h
    obtain ⟨⟨hpredicate, hfields⟩, hdates⟩ := h
    exact ⟨hpredicate, hfields, hdates⟩
  · intro h
    exact ⟨⟨h.predicate, h.fields⟩, h.dates⟩

end Connector

end ReportQuery
