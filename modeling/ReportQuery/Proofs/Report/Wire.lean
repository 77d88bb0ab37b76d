import ReportQuery.Attempts
import ReportQuery.Proofs.Filter.Leaves
import ReportQuery.Report.Wire

namespace ReportQuery.Wire

namespace Int64Field

variable {n : Int} {field : Int64Field}

theorem ofInt_eq_ok_iff : ofInt n = .ok field ↔ field.val = n := by
  rw [ofInt]
  constructor
  · intro h
    split at h
    · cases h
      rfl
    · cases h
  · rintro rfl
    rw [dif_pos field.property]

theorem ofInt_eq_error_iff {e : EncodeError} :
    ofInt n = .error e ↔
      ¬(-0x8000000000000000 ≤ n ∧ n < 0x8000000000000000) ∧ e = .outOfRange n := by
  rw [ofInt]
  split
  · next h => exact iff_of_false (fun he => nomatch he) (fun he => he.1 h)
  · next h => simp [h, eq_comm]

theorem exists_ofInt_iff :
    (∃ field, ofInt n = .ok field) ↔ -0x8000000000000000 ≤ n ∧ n < 0x8000000000000000 := by
  simp only [ofInt_eq_ok_iff]
  constructor
  · rintro ⟨field, rfl⟩
    exact field.property
  · intro h
    exact ⟨⟨n, h⟩, rfl⟩

end Int64Field

namespace Expression

/-- A tree, if there is one, that is not nested too deep to be encoded. -/
def Shallow (tree : Option FilterTree) : Prop :=
  ∀ t, tree = some t → nesting (ofTree t) < nestingLimit

theorem mapM_encode_eq_ok_iff {tree : Option FilterTree} {e : Option Expression} :
    tree.mapM encode = .ok e ↔ Shallow tree ∧ tree.map ofTree = e := by
  cases tree with
  | none => simp [Shallow, pure, Except.pure]
  | some t =>
    have hsome : (some t).mapM encode = .ok e ↔ ∃ x, encode t = .ok x ∧ some x = e := by
      change (encode t).map some = .ok e ↔ _
      exact map_eq_ok_iff
    simp only [hsome, encode_eq_ok_iff, Shallow, Option.some.injEq, forall_eq', Option.map_some]
    constructor
    · rintro ⟨x, ⟨hn, rfl⟩, rfl⟩
      exact ⟨hn, rfl⟩
    · rintro ⟨hn, rfl⟩
      exact ⟨_, ⟨hn, rfl⟩, rfl⟩

theorem nesting_filter_le (l : Leaf) : nesting (ofTree (.leaf l)) ≤ 3 := by
  obtain ⟨field, test⟩ := l
  cases test with
  | text => simp [ofTree, Condition.ofTest, nesting]
  | number => simp [ofTree, Condition.ofTest, nesting]

theorem listNesting_ofTrees_le (leaves : List Leaf) :
    listNesting (ofTrees (leaves.map .leaf)) ≤ 4 := by
  induction leaves with
  | nil => simp [ofTrees, listNesting]
  | cons l leaves ih =>
    have hl := nesting_filter_le l
    rw [List.map_cons, ofTrees, listNesting]
    omega

/-- The tree of leaves is one of them or a group of them, and no deeper. -/
theorem shallow_ofLeaves (leaves : List Leaf) : Shallow (FilterTree.ofLeaves leaves) := by
  intro tree ht
  match leaves with
  | [] => cases ht
  | [l] =>
    cases ht
    have hl := nesting_filter_le l
    rw [nestingLimit]
    omega
  | l :: l' :: rest =>
    cases ht
    have hl := listNesting_ofTrees_le (l :: l' :: rest)
    rw [nestingLimit]
    change listNesting (ofTrees ((l :: l' :: rest).map .leaf)) + 1 < 100
    omega

end Expression

namespace Request

variable {r : Report}

def withLimit (r : Report) (limit : Int64Field) : Request where
  property := r.path
  dateRanges := [(r.dates.first, r.dates.last)]
  dimensions := r.dimensionNames
  metrics := r.metricNames
  limit
  dimensionFilter := r.dimensionFilter.map Expression.ofTree
  metricFilter := r.metricFilter.map Expression.ofTree

theorem ofReport_eq_ok_iff {request : Request} :
    ofReport r = .ok request ↔
      Expression.Shallow r.dimensionFilter ∧ Expression.Shallow r.metricFilter ∧
        request.limit.val = r.limit ∧ request = withLimit r request.limit := by
  simp only [ofReport, bind_eq_ok_iff, Int64Field.ofInt_eq_ok_iff,
    Expression.mapM_encode_eq_ok_iff]
  constructor
  · rintro ⟨limit, hl, _, ⟨hd, rfl⟩, _, ⟨hm, rfl⟩, h⟩
    cases h
    exact ⟨hd, hm, hl, rfl⟩
  · rintro ⟨hd, hm, hl, h⟩
    exact ⟨request.limit, hl, _, ⟨hd, rfl⟩, _, ⟨hm, rfl⟩, congrArg Except.ok h.symm⟩

theorem ofReport_eq_ok_of_limit {limit : Int64Field} (hl : Int64Field.ofInt r.limit = .ok limit)
    (hd : Expression.Shallow r.dimensionFilter) (hm : Expression.Shallow r.metricFilter) :
    ofReport r = .ok (withLimit r limit) :=
  ofReport_eq_ok_iff.mpr ⟨hd, hm, Int64Field.ofInt_eq_ok_iff.mp hl, rfl⟩

theorem ofReport_eq_error_of_limit {e : EncodeError} (h : Int64Field.ofInt r.limit = .error e) :
    ofReport r = .error e := by
  rw [ofReport, h]
  rfl

end Request

end ReportQuery.Wire
