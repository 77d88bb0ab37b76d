import ReportQuery.Proofs.Predicate.Placement

namespace ReportQuery

theorem Operator.ofName?_eq_none_iff {name : String} :
    Operator.ofName? name = none ↔ ∀ o : Operator, o.name ≠ name := by
  simp only [Option.eq_none_iff_forall_ne_some, ne_eq, Operator.ofName?_eq_some_iff]

theorem ColumnRef.ofName?_eq_none_iff {column : String} :
    ColumnRef.ofName? column = none ↔
      ∀ (kind : ColumnKind) (x : String), column ≠ kind.mark ++ x := by
  rw [Option.eq_none_iff_forall_ne_some]
  constructor
  · intro h kind x hx
    exact h ⟨column, x, kind⟩ (ColumnRef.ofName?_eq_some_iff.mpr ⟨rfl, hx.symm⟩)
  · intro h ref href
    exact h ref.kind ref.base (ColumnRef.ofName?_eq_some_iff.mp href).2.symm

theorem Operand.literal?_eq_none_iff {operand : Operand} :
    operand.literal? = none ↔ ∀ v, v ≠ .null → operand ≠ .scalar v := by
  constructor
  · rintro h v hv rfl
    rw [Operand.literal?_scalar hv] at h
    cases h
  · intro h
    rw [Option.eq_none_iff_forall_ne_some]
    rintro v hl
    have hs := Operand.eq_scalar_of_literal? hl
    refine h v ?_ hs
    rintro rfl
    rw [hs] at hl
    cases hl

namespace Clause

/-- Why a clause has no filter: the code of its defect, and the defect. The checks of a comparison
are made in this order, and only the first that fails counts. -/
inductive Refused : Clause → String → Defect → Prop where
  | operator {target : Target} {operator : String} {operand : Operand} :
    (∀ o : Operator, o.name ≠ operator) →
      Refused (.comparison target operator operand) "unsupported_operator"
        (.unsupportedOperator operator)
  | column {target : Target} {o : Operator} {operand : Operand} :
    (∀ (kind : ColumnKind) (x : String), target.name ≠ kind.mark ++ x) →
      Refused (.comparison target o.name operand) "unclassifiable_column"
        (.unclassifiableColumn target.name none)
  | operand {target : Target} {o : Operator} {operand : Operand} {kind : ColumnKind}
      {base : String} :
    target.name = kind.mark ++ base → (∀ v, v ≠ .null → operand ≠ .scalar v) →
      Refused (.comparison target o.name operand) "unsupported_value"
        (.unsupportedOperand target.name operand.type)
  | mismatch {target : Target} {o : Operator} {v : Json} {kind : ColumnKind} {base : String} :
    target.name = kind.mark ++ base → v ≠ .null → ¬ o.appliesTo kind →
      Refused (.comparison target o.name (.scalar v)) "operator_kind_mismatch"
        (.operatorMismatch o kind target.name)
  | disjunction {conditions : Nat} :
    Refused (.disjunction conditions) "or_not_preserved" (.disjunction conditions)
  | negation : Refused .negation "unsupported_expression" .negation
  | existence : Refused .existence "unsupported_expression" .existence
  | unary {operator : String} :
    Refused (.unary operator) "unsupported_expression" (.unaryComparison operator)
  | unknown {type : String} : Refused (.unknown type) "unknown_expression" (.unknownPredicate type)

/-- The verdict on a clause. A comparison is accepted with its column, the name behind the mark of
the column's kind, its operator and its literal. -/
inductive Judged : Clause → Except Defect Filter → Prop where
  | accepted {target : Target} {o : Operator} {v : Json} {kind : ColumnKind} {base : String} :
    target.name = kind.mark ++ base → v ≠ .null → o.appliesTo kind →
      Judged (.comparison target o.name (.scalar v)) (.ok ⟨target.name, base, o, v, kind⟩)
  | refused {clause : Clause} {code : String} {d : Defect} :
    Refused clause code d → d.code = code → Judged clause (.error d)

variable {clause : Clause} {verdict : Except Defect Filter}

theorem verdict_of_refused {code : String} {d : Defect} (h : clause.Refused code d) :
    clause.verdict = .error d := by
  have hname (o : Operator) : Operator.ofName? o.name = some o :=
    Operator.ofName?_eq_some_iff.mpr rfl
  have href {target : Target} {kind : ColumnKind} {base : String}
      (hb : target.name = kind.mark ++ base) :
      ColumnRef.ofName? target.name = some ⟨target.name, base, kind⟩ :=
    ColumnRef.ofName?_eq_some_iff.mpr ⟨rfl, hb.symm⟩
  cases h with
  | operator ho =>
    rw [Clause.verdict, Filter.ofComparison, Operator.supported,
      Operator.ofName?_eq_none_iff.mpr ho]
    rfl
  | column hc =>
    rw [Clause.verdict, Filter.ofComparison, Operator.supported, hname,
      ColumnRef.ofName?_eq_none_iff.mpr hc]
    rfl
  | operand hb hl =>
    rw [Clause.verdict, Filter.ofComparison, Operator.supported, hname, href hb,
      Operand.literal?_eq_none_iff.mpr hl]
    rfl
  | mismatch hb hv ha =>
    rw [Clause.verdict, Filter.ofComparison, Operator.supported, hname, href hb,
      Operand.literal?_scalar hv]
    simp only [bind, Except.bind, pure, Except.pure, Operator.mismatch?, if_neg ha]
    rfl
  | disjunction => rfl
  | negation => rfl
  | existence => rfl
  | unary => rfl
  | unknown => rfl

theorem verdict_of_judged (h : clause.Judged verdict) : clause.verdict = verdict := by
  cases h with
  | accepted hb hv ha => exact verdict_comparison _ _ hb hv ha
  | refused h _ => exact verdict_of_refused h

theorem exists_judged_comparison (target : Target) (operator : String) (operand : Operand) :
    ∃ verdict, (comparison target operator operand).Judged verdict := by
  by_cases ho : ∃ o : Operator, o.name = operator
  · obtain ⟨o, rfl⟩ := ho
    by_cases hc : ∃ (kind : ColumnKind) (x : String), target.name = kind.mark ++ x
    · obtain ⟨kind, base, hb⟩ := hc
      by_cases hl : ∃ v, v ≠ .null ∧ operand = .scalar v
      · obtain ⟨v, hv, rfl⟩ := hl
        by_cases ha : o.appliesTo kind
        · exact ⟨_, .accepted hb hv ha⟩
        · exact ⟨_, .refused (.mismatch hb hv ha) rfl⟩
      · exact ⟨_, .refused (.operand hb fun v hv h => hl ⟨v, hv, h⟩) rfl⟩
    · exact ⟨_, .refused (.column fun kind x h => hc ⟨kind, x, h⟩) rfl⟩
  · exact ⟨_, .refused (.operator fun o h => ho ⟨o, h⟩) rfl⟩

theorem exists_judged (clause : Clause) : ∃ verdict, clause.Judged verdict := by
  cases clause with
  | comparison target operator operand => exact exists_judged_comparison target operator operand
  | disjunction => exact ⟨_, .refused .disjunction rfl⟩
  | negation => exact ⟨_, .refused .negation rfl⟩
  | existence => exact ⟨_, .refused .existence rfl⟩
  | unary => exact ⟨_, .refused .unary rfl⟩
  | unknown => exact ⟨_, .refused .unknown rfl⟩

theorem judged_iff : clause.Judged verdict ↔ clause.verdict = verdict := by
  constructor
  · exact verdict_of_judged
  · rintro rfl
    obtain ⟨verdict, h⟩ := clause.exists_judged
    rwa [verdict_of_judged h]

theorem forall₂_judged_iff {clauses : List Clause} {verdicts : List (Except Defect Filter)} :
    List.Forall₂ Judged clauses verdicts ↔ verdicts = clauses.map Clause.verdict := by
  rw [forall₂_iff_map_eq (R := Judged) (g := id) fun _ _ => judged_iff, List.map_id, eq_comm]

end Clause

namespace FilterLists

theorem length_ofVerdicts (verdicts : List (Except Defect Filter)) :
    (ofVerdicts verdicts).dimension.length + (ofVerdicts verdicts).metric.length +
      (ofVerdicts verdicts).defects.length = verdicts.length := by
  induction verdicts with
  | nil => rfl
  | cons verdict verdicts ih =>
    simp only [ofVerdicts] at ih ⊢
    cases verdict with
    | error d =>
      rw [results_cons_error, failures_cons_error, List.length_cons, List.length_cons]
      omega
    | ok f =>
      rw [results_cons_ok, failures_cons_ok, List.length_cons]
      cases hk : f.kind with
      | dimension =>
        simp only [List.filter_cons, hk, decide_true, if_true, reduceCtorEq, decide_false,
          Bool.false_eq_true, if_false, List.length_cons]
        omega
      | metric =>
        simp only [List.filter_cons, hk, decide_true, if_true, reduceCtorEq, decide_false,
          Bool.false_eq_true, if_false, List.length_cons]
        omega

end FilterLists

namespace Predicate

theorem foldl_append_filters (start : FilterLists) (parts : List Predicate) :
    (parts.map filters).foldl .append start = start.append (filtersOf parts) := by
  induction parts generalizing start with
  | nil => rw [List.map_nil, List.foldl_nil, filtersOf, FilterLists.append_empty]
  | cons part parts ih =>
    rw [List.map_cons, List.foldl_cons, ih, filtersOf, FilterLists.append_assoc]

theorem filters_all (parts : List Predicate) :
    (all parts).filters = (parts.map filters).foldl .append .empty := by
  rw [filters, foldl_append_filters, FilterLists.empty_append]

theorem filters_all_all (before inner after : List Predicate) :
    (all (before ++ all inner :: after)).filters = (all (before ++ inner ++ after)).filters := by
  rw [filters, filters, filtersOf_append, filtersOf, filters, filtersOf_append, filtersOf_append,
    FilterLists.append_assoc]

/-- The filter lists of a predicate account for its clauses. Each clause has exactly one verdict;
the accepted comparisons on dimensions, those on metrics, and the defects of all other clauses are
the three lists, in the order of the clauses. The lists of a conjunction are those of its parts,
merged in order, and a disjunction has its own defect in front of them. -/
theorem filtersOfPart_accounts (p : Option Predicate) :
    (∃ verdicts,
      (∀ others, List.Forall₂ Clause.Judged (clausesOfPart p) others ↔ others = verdicts) ∧
      (filtersOfPart p).dimension = (results verdicts).filter (·.kind = .dimension) ∧
      (filtersOfPart p).metric = (results verdicts).filter (·.kind = .metric) ∧
      (filtersOfPart p).defects = failures verdicts) ∧
    (filtersOfPart p).dimension.length + (filtersOfPart p).metric.length +
      (filtersOfPart p).defects.length = (clausesOfPart p).length ∧
    filtersOfPart none = .empty ∧
    (∀ parts, (all parts).filters = (parts.map filters).foldl .append .empty) ∧
    (∀ parts, (any parts).filters =
      (FilterLists.ofDefect (.disjunction parts.length)).append (all parts).filters) ∧
    ∀ before inner after,
      (all (before ++ all inner :: after)).filters = (all (before ++ inner ++ after)).filters := by
  rw [filtersOfPart_eq_ofVerdicts]
  refine ⟨⟨_, fun others => Clause.forall₂_judged_iff, rfl, rfl, rfl⟩, ?_, rfl, filters_all, ?_,
    filters_all_all⟩
  · rw [FilterLists.length_ofVerdicts, List.length_map]
  · intro parts
    rw [filters, filters]

end Predicate

end ReportQuery
