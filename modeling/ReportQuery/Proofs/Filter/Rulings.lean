import ReportQuery.Proofs.Filter.Misfits

namespace ReportQuery

namespace Filter

/-- Why a filter has no leaf in the list of a kind: the code of its defect, and the defect. The
checks are made in this order, and only the first that fails counts. -/
inductive Refused : ColumnKind → Filter → String → Defect → Prop where
  | kind {expected : ColumnKind} {f : Filter} :
    f.kind ≠ expected →
      Refused expected f "kind_mismatch" (.kindMismatch f.column f.kind expected)
  | operator {expected : ColumnKind} {f : Filter} :
    f.kind = expected → ¬ f.operator.appliesTo expected →
      Refused expected f "operator_kind_mismatch" (.operatorMismatch f.operator expected f.column)
  | text {f : Filter} :
    f.kind = .dimension → f.operator.appliesTo .dimension → (∀ s, f.value ≠ .str s) →
      Refused .dimension f "type_mismatch" (.dimensionValue f.column f.value)
  | number {f : Filter} :
    f.kind = .metric → f.operator.appliesTo .metric → f.value.toNumber = .ok none →
      Refused .metric f "type_mismatch" (.metricValue f.column f.value)

/-- What a filter gives in the list of a kind: its defect, or the leaf on its base name with the
test of its operator. -/
inductive Ruled : ColumnKind → Filter → Except Defect Leaf → Prop where
  | refused {expected : ColumnKind} {f : Filter} {code : String} {d : Defect} :
    Refused expected f code d → d.code = code → Ruled expected f (.error d)
  | exact {f : Filter} {s : String} :
    f.kind = .dimension → f.operator = .equal → f.value = .str s →
      Ruled .dimension f (.ok ⟨f.base, .text s .exact⟩)
  | pattern {f : Filter} {s : String} :
    f.kind = .dimension → f.operator = .like → f.value = .str s →
      Ruled .dimension f (.ok ⟨f.base, .text s .partialRegexp⟩)
  | equal {f : Filter} {x : Double} :
    f.kind = .metric → f.operator = .equal → f.value.toNumber = .ok (some x) →
      Ruled .metric f (.ok ⟨f.base, .number .equal x⟩)
  | greater {f : Filter} {x : Double} :
    f.kind = .metric → f.operator = .greater → f.value.toNumber = .ok (some x) →
      Ruled .metric f (.ok ⟨f.base, .number .greater x⟩)
  | less {f : Filter} {x : Double} :
    f.kind = .metric → f.operator = .less → f.value.toNumber = .ok (some x) →
      Ruled .metric f (.ok ⟨f.base, .number .less x⟩)

variable {f : Filter} {ruling : Except Defect Leaf}

theorem dimensionLeaf_of_ruled (h : Ruled .dimension f ruling) : f.dimensionLeaf = ruling := by
  cases h with
  | refused hr =>
    cases hr with
    | kind hk => rw [dimensionLeaf, if_pos hk]
    | operator hk ho => exact dimensionLeaf_of_mismatch hk (if_neg ho)
    | text hk ho hv =>
      rw [dimensionLeaf_of_appliesTo hk ho]
      split
      · next s hs => exact absurd hs (hv s)
      · rfl
  | exact hk ho hv => exact dimensionLeaf_eq_ok_iff.mpr ⟨hk, _, _, by rw [ho]; rfl, hv, rfl⟩
  | pattern hk ho hv => exact dimensionLeaf_eq_ok_iff.mpr ⟨hk, _, _, by rw [ho]; rfl, hv, rfl⟩

theorem exists_ruled_dimension (f : Filter) : ∃ ruling, Ruled .dimension f ruling := by
  by_cases hk : f.kind = .dimension
  · by_cases ho : f.operator.appliesTo .dimension
    · by_cases hv : ∃ s, f.value = .str s
      · obtain ⟨s, hv⟩ := hv
        cases hf : f.operator with
        | equal => exact ⟨_, .exact hk hf hv⟩
        | like => exact ⟨_, .pattern hk hf hv⟩
        | greater =>
          rw [hf] at ho
          cases ho
        | less =>
          rw [hf] at ho
          cases ho
      · exact ⟨_, .refused (.text hk ho fun s hs => hv ⟨s, hs⟩) rfl⟩
    · exact ⟨_, .refused (.operator hk ho) rfl⟩
  · exact ⟨_, .refused (.kind hk) rfl⟩

theorem ruled_dimension_iff : Ruled .dimension f ruling ↔ f.dimensionLeaf = ruling := by
  constructor
  · exact dimensionLeaf_of_ruled
  · rintro rfl
    obtain ⟨ruling, h⟩ := f.exists_ruled_dimension
    rwa [dimensionLeaf_of_ruled h]

theorem metricLeaf_of_ruled (h : Ruled .metric f ruling) : f.metricLeaf = .ok ruling := by
  cases h with
  | refused hr =>
    cases hr with
    | kind hk => rw [metricLeaf, if_pos hk]
    | operator hk ho => exact metricLeaf_of_mismatch hk (if_neg ho)
    | number hk ho hv =>
      rw [metricLeaf_of_appliesTo hk ho, hv]
      rfl
  | equal hk ho hv => exact metricLeaf_eq_ok_iff.mpr ⟨hk, _, _, by rw [ho]; rfl, hv, rfl⟩
  | greater hk ho hv => exact metricLeaf_eq_ok_iff.mpr ⟨hk, _, _, by rw [ho]; rfl, hv, rfl⟩
  | less hk ho hv => exact metricLeaf_eq_ok_iff.mpr ⟨hk, _, _, by rw [ho]; rfl, hv, rfl⟩

theorem exists_ruled_metric (h : f.metricLeaf = .ok ruling) : ∃ ruling, Ruled .metric f ruling := by
  by_cases hk : f.kind = .metric
  · by_cases ho : f.operator.appliesTo .metric
    · cases hn : f.value.toNumber with
      | error e =>
        have herror : f.metricLeaf = .error e := metricLeaf_eq_error_iff.mpr ⟨hk, ho, hn⟩
        rw [herror] at h
        cases h
      | ok number =>
        cases number with
        | none => exact ⟨_, .refused (.number hk ho hn) rfl⟩
        | some x =>
          cases hf : f.operator with
          | equal => exact ⟨_, .equal hk hf hn⟩
          | greater => exact ⟨_, .greater hk hf hn⟩
          | less => exact ⟨_, .less hk hf hn⟩
          | like =>
            rw [hf] at ho
            cases ho
    · exact ⟨_, .refused (.operator hk ho) rfl⟩
  · exact ⟨_, .refused (.kind hk) rfl⟩

theorem ruled_metric_iff : Ruled .metric f ruling ↔ f.metricLeaf = .ok ruling := by
  constructor
  · exact metricLeaf_of_ruled
  · intro h
    obtain ⟨other, hr⟩ := exists_ruled_metric h
    have he := metricLeaf_of_ruled hr
    rw [h, Except.ok.injEq] at he
    rwa [he]

end Filter

/-- What lists are built to, by the rulings on their filters. The leaves that the rulings give stand
in the tree of their list, in its order, after that of the scope; the defects that they give stand
after those that the lists had before, and keep what is built from being unwrapped. An operator that
passes the check for its list has a test there. -/
structure FilterLists.Conserves (lists : FilterLists) (scope : Scope)
    (built : Outcome ReportFilters) (onDimension onMetric : List (Except Defect Leaf)) : Prop where
  textMatch : ∀ f ∈ lists.dimension, f.operator.mismatch? .dimension f.column = none →
    ∃ matching, f.operator.textMatch? = some matching
  numberComparison : ∀ f ∈ lists.metric, f.operator.mismatch? .metric f.column = none →
    ∃ comparison, f.operator.numberComparison? = some comparison
  dimension : ∀ others,
    List.Forall₂ (Filter.Ruled .dimension) lists.dimension others ↔ others = onDimension
  metric : ∀ others,
    List.Forall₂ (Filter.Ruled .metric) lists.metric others ↔ others = onMetric
  leaves : ∃ filters, built.data = some filters ∧
    FilterTree.leavesIn filters.dimension = scope.leaf :: results onDimension ∧
    FilterTree.leavesIn filters.metric = results onMetric
  defects : built.defects = lists.defects ++ failures onDimension ++ failures onMetric
  ok : built.ok ↔ built.defects = []
  unwrap : ∀ list, built.unwrap = .error list ↔ ¬ built.ok ∧ list = built.defects

theorem Outcome.collect_ok_iff {α : Type} {data : α} {defects warnings : List Defect} :
    (Outcome.collect data defects warnings).ok ↔ defects = [] :=
  List.isEmpty_iff

theorem Outcome.unwrap_eq_error_iff {α : Type} {o : Outcome α} {defects : List Defect} :
    o.unwrap = .error defects ↔ ¬ o.ok ∧ defects = o.defects := by
  rw [unwrap]
  split
  · next h => simp [h]
  · next h => simp [h, eq_comm]

namespace FilterLists

variable {lists : FilterLists} {scope : Scope} {built : Outcome ReportFilters}

/-- Building trees conserves filters, whatever the lists hold: each filter has exactly one ruling,
by which it has either its leaf or its defect. -/
theorem build_conserves (h : lists.build scope = .ok built) :
    ∃ onDimension onMetric, lists.Conserves scope built onDimension onMetric := by
  obtain ⟨metric, hm, rfl⟩ := build_eq_ok_iff.mp h
  refine ⟨lists.dimension.map Filter.dimensionLeaf, metric, ?_, ?_, ?_, ?_, ?_, rfl,
    Outcome.collect_ok_iff, fun _ => Outcome.unwrap_eq_error_iff⟩
  · intro f _ hf
    exact ⟨_, Operator.textMatch?_eq_some (Operator.mismatch?_eq_none_iff.mp hf)⟩
  · intro f _ hf
    exact ⟨_, Operator.numberComparison?_eq_some (Operator.mismatch?_eq_none_iff.mp hf)⟩
  · intro others
    rw [forall₂_iff_map_eq (R := Filter.Ruled .dimension) (g := id) fun _ _ =>
      Filter.ruled_dimension_iff, List.map_id, eq_comm]
  · intro others
    rw [forall₂_iff_map_eq (R := Filter.Ruled .metric) fun _ _ => Filter.ruled_metric_iff, hm,
      eq_comm]
    exact List.map_inj_right fun _ _ => Except.ok.inj
  · exact ⟨_, rfl, FilterTree.leavesIn_ofLeaves _, FilterTree.leavesIn_ofLeaves _⟩

/-- Lists that no predicate has: filters of the wrong kind, operators that do not apply, values of
the wrong type, and a defect from before. -/
def mixed : FilterLists where
  dimension :=
    [⟨"metric_sessions", "sessions", .greater, .int 1, .metric⟩,
      ⟨"dimension_country", "country", .like, .str "^U", .dimension⟩,
      ⟨"dimension_country", "country", .less, .int 1, .dimension⟩,
      ⟨"dimension_country", "country", .equal, .int 1, .dimension⟩]
  metric :=
    [⟨"dimension_country", "country", .like, .str "^U", .dimension⟩,
      ⟨"metric_sessions", "sessions", .like, .null, .metric⟩,
      ⟨"metric_sessions", "sessions", .less, .str "1e2", .metric⟩,
      ⟨"metric_sessions", "sessions", .equal, .bool true, .metric⟩]
  defects := [.reported ⟨"earlier", "An earlier defect", []⟩]

theorem build_conserves_mixed :
    ∃ built, mixed.build ⟨"hostName", "shop.example.com"⟩ = .ok built ∧
      built.defects.map Defect.code =
        ["earlier", "kind_mismatch", "operator_kind_mismatch", "type_mismatch", "kind_mismatch",
          "operator_kind_mismatch", "type_mismatch"] ∧
      ∃ onDimension onMetric,
        mixed.Conserves ⟨"hostName", "shop.example.com"⟩ built onDimension onMetric :=
  ⟨_, rfl, by decide +kernel, build_conserves rfl⟩

end FilterLists

end ReportQuery
