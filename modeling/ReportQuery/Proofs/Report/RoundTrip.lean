import ReportQuery.Proofs.Report.Wire
import ReportQuery.Report.Decoding

namespace ReportQuery

/-- A tree within so many groups, each of them the only part of the next. -/
def FilterTree.within (tree : FilterTree) : Nat → FilterTree
  | 0 => tree
  | n + 1 => .group [tree.within n]

namespace Wire

def Int64Field.Holds (n : Int) : Prop := -0x8000000000000000 ≤ n ∧ n < 0x8000000000000000

def EncodeError.IsTooDeep (e : EncodeError) : Prop := ∃ type, e = .tooDeep type

theorem MessageType.isTooDeep_of_take {type : MessageType} {n : Nat} (e : EncodeError)
    (h : type.take n = .error e) : e.IsTooDeep := by
  rw [take] at h
  split at h
  · cases h
  · cases h
    exact ⟨type, rfl⟩

namespace Expression

theorem isTooDeep_of_forM_take {parts : List Expression} (e : EncodeError)
    (h : (parts.forM fun part => MessageType.filterExpression.take (nesting part)) = .error e) :
    e.IsTooDeep := by
  induction parts generalizing e with
  | nil => cases h
  | cons part parts ih => exact of_bind_eq_error MessageType.isTooDeep_of_take (fun _ => ih) h

mutual

theorem isTooDeep_of_assemble : ∀ (x : Expression) (e : EncodeError),
    assemble x = .error e → e.IsTooDeep
  | filter .., e, h => by
    rw [assemble] at h
    cases h
  | andGroup parts, e, h => by
    rw [assemble] at h
    apply of_bind_eq_error (isTooDeep_of_assembleParts parts) _ h
    intro _ e h
    exact of_bind_eq_error isTooDeep_of_forM_take (fun _ => MessageType.isTooDeep_of_take) h

theorem isTooDeep_of_assembleParts : ∀ (parts : List Expression) (e : EncodeError),
    assembleParts parts = .error e → e.IsTooDeep
  | [], e, h => by
    rw [assembleParts] at h
    cases h
  | part :: parts, e, h => by
    rw [assembleParts] at h
    exact of_bind_eq_error (isTooDeep_of_assemble part)
      (fun _ => isTooDeep_of_assembleParts parts) h

end

theorem isTooDeep_of_encode {tree : FilterTree} (e : EncodeError) (h : encode tree = .error e) :
    e.IsTooDeep := by
  apply of_bind_eq_error (isTooDeep_of_assemble (ofTree tree)) _ h
  intro _ e h
  apply of_bind_eq_error MessageType.isTooDeep_of_take _ h
  intro _ e h
  apply of_bind_eq_error MessageType.isTooDeep_of_take _ h
  intro _ e h
  cases h

theorem isTooDeep_of_mapM_encode {tree : Option FilterTree} (e : EncodeError)
    (h : tree.mapM encode = .error e) : e.IsTooDeep := by
  cases tree with
  | none => cases h
  | some t =>
    have hmap : (encode t).map some = .error e := h
    exact isTooDeep_of_encode e (map_eq_error_iff.mp hmap)

theorem map_toTree_map_ofTree (tree : Option FilterTree) :
    (tree.map ofTree).map toTree = tree := by
  cases tree with
  | none => rfl
  | some t => exact congrArg some (toTree_ofTree t)

/-- Each group adds two messages: its own, and that of the list of its parts. -/
theorem nesting_within (tree : FilterTree) (n : Nat) :
    nesting (ofTree (tree.within n)) = nesting (ofTree tree) + 2 * n := by
  induction n with
  | zero => rfl
  | succ n ih =>
    rw [FilterTree.within, ofTree, ofTrees, ofTrees, nesting, listNesting, listNesting, ih]
    omega

theorem two_le_nesting_leaf (l : Leaf) : 2 ≤ nesting (ofTree (.leaf l)) := by
  obtain ⟨field, test⟩ := l
  cases test with
  | text => simp [ofTree, Condition.ofTest, nesting]
  | number => simp [ofTree, Condition.ofTest, nesting]

/-- A leaf can stand within 48 groups, and within no more. -/
theorem shallow_within_iff {l : Leaf} {n : Nat} :
    Shallow (some ((FilterTree.leaf l).within n)) ↔ n ≤ 48 := by
  have hmost := nesting_filter_le l
  have hleast := two_le_nesting_leaf l
  simp only [Shallow, Option.some.injEq, forall_eq', nesting_within, nestingLimit]
  omega

end Expression

namespace Request

variable {r other : Report} {request : Request} {e : EncodeError}

theorem toReport?_of_ofReport (h : ofReport r = .ok request) : request.toReport? = some r := by
  obtain ⟨-, -, hl, he⟩ := ofReport_eq_ok_iff.mp h
  have hid : afterFront? (Report.pathOf "").toList r.path.toList = some r.propertyId.toList := by
    rw [afterFront?_eq_some_iff, Report.path, Report.pathOf, Report.pathOf, String.append_empty,
      String.toList_append]
  rw [he, toReport?]
  simp only [withLimit, hid, hl, String.ofList_toList, Expression.map_toTree_map_ofTree]

theorem ofReport_injective (h : ofReport r = .ok request) (h' : ofReport other = .ok request) :
    other = r := by
  have hr := toReport?_of_ofReport h
  rw [toReport?_of_ofReport h'] at hr
  exact Option.some.inj hr

theorem ofReport_eq_error (h : ofReport r = .error e) :
    e = .outOfRange r.limit ∧ ¬ Int64Field.Holds r.limit ∨
      e.IsTooDeep ∧ Int64Field.Holds r.limit := by
  cases hl : Int64Field.ofInt r.limit with
  | error refused =>
    rw [ofReport_eq_error_of_limit hl] at h
    cases h
    have hr := Int64Field.ofInt_eq_error_iff.mp hl
    exact .inl ⟨hr.2, hr.1⟩
  | ok limit =>
    refine .inr ⟨?_, Int64Field.exists_ofInt_iff.mp ⟨limit, hl⟩⟩
    rw [ofReport, hl] at h
    apply of_bind_eq_error (x := r.dimensionFilter.mapM Expression.encode)
      Expression.isTooDeep_of_mapM_encode _ h
    intro _ e h
    apply of_bind_eq_error Expression.isTooDeep_of_mapM_encode _ h
    intro _ e h
    cases h

theorem exists_ofReport_iff :
    (∃ request, ofReport r = .ok request) ↔
      Int64Field.Holds r.limit ∧ Expression.Shallow r.dimensionFilter ∧
        Expression.Shallow r.metricFilter := by
  constructor
  · intro h
    obtain ⟨request, h⟩ := h
    obtain ⟨hd, hm, hl, -⟩ := ofReport_eq_ok_iff.mp h
    exact ⟨hl ▸ request.limit.property, hd, hm⟩
  · intro h
    obtain ⟨hl, hd, hm⟩ := h
    obtain ⟨limit, hl⟩ := Int64Field.exists_ofInt_iff.mpr hl
    exact ⟨_, ofReport_eq_ok_of_limit hl hd hm⟩

theorem ofReport_outOfRange_iff :
    ofReport r = .error (.outOfRange r.limit) ↔ ¬ Int64Field.Holds r.limit := by
  constructor
  · intro h
    rcases ofReport_eq_error h with ⟨-, hl⟩ | ⟨⟨_, he⟩, -⟩
    · exact hl
    · cases he
  · intro h
    exact ofReport_eq_error_of_limit (Int64Field.ofInt_eq_error_iff.mpr ⟨h, rfl⟩)

theorem exists_ofReport_tooDeep_iff :
    (∃ type, ofReport r = .error (.tooDeep type)) ↔
      Int64Field.Holds r.limit ∧
        ¬ (Expression.Shallow r.dimensionFilter ∧ Expression.Shallow r.metricFilter) := by
  constructor
  · intro h
    obtain ⟨type, h⟩ := h
    rcases ofReport_eq_error h with ⟨he, -⟩ | ⟨-, hl⟩
    · cases he
    · refine ⟨hl, fun hshallow => ?_⟩
      obtain ⟨request, hr⟩ := exists_ofReport_iff.mpr ⟨hl, hshallow⟩
      rw [h] at hr
      cases hr
  · intro h
    obtain ⟨hl, hdeep⟩ := h
    cases hr : ofReport r with
    | ok request => exact absurd (exists_ofReport_iff.mp ⟨request, hr⟩).2 hdeep
    | error e =>
      rcases ofReport_eq_error hr with ⟨-, hn⟩ | ⟨⟨type, rfl⟩, -⟩
      · exact absurd hl hn
      · exact ⟨type, rfl⟩

/-- A request whose limit fits and whose filters are not nested too deep is encoded, and read back
as it was; no other request has the same form. Any other request is refused, for its limit first. -/
theorem ofReport_recovers_iff (r : Report) :
    ((∃ request, ofReport r = .ok request ∧ request.toReport? = some r) ↔
      Int64Field.Holds r.limit ∧ Expression.Shallow r.dimensionFilter ∧
        Expression.Shallow r.metricFilter) ∧
    (∀ request other, ofReport r = .ok request → ofReport other = .ok request → other = r) ∧
    (ofReport r = .error (.outOfRange r.limit) ↔ ¬ Int64Field.Holds r.limit) ∧
    ((∃ type, ofReport r = .error (.tooDeep type)) ↔
      Int64Field.Holds r.limit ∧
        ¬ (Expression.Shallow r.dimensionFilter ∧ Expression.Shallow r.metricFilter)) := by
  have hread : (∃ request, ofReport r = .ok request ∧ request.toReport? = some r) ↔
      ∃ request, ofReport r = .ok request := by
    apply exists_congr
    intro request
    exact and_iff_left_of_imp toReport?_of_ofReport
  refine ⟨hread.trans exists_ofReport_iff, ?_, ofReport_outOfRange_iff,
    exists_ofReport_tooDeep_iff⟩
  intro request other h h'
  exact ofReport_injective h h'

end Request

end Wire

/-- A report in which a name comes twice, with groups of no part, of one, and of several. -/
def Report.grouped : Report where
  propertyId := "properties/1"
  dates := .lastWeek
  dimensionNames := ["country", "hostName", "country"]
  metricNames := []
  limit := -1
  dimensionFilter := some (.group [.group [], .leaf ⟨"", .text "" .partialRegexp⟩])
  metricFilter := some ((FilterTree.leaf ⟨"sessions", .number .less .nan⟩).within 48)

theorem Wire.Request.ofReport_recovers_iff_grouped :
    Int64Field.Holds Report.grouped.limit ∧
    ∃ request, ofReport .grouped = .ok request ∧ request.toReport? = some .grouped ∧
      ∀ other, ofReport other = .ok request → other = .grouped := by
  have hlimit : Int64Field.Holds Report.grouped.limit := ⟨by decide, by decide⟩
  have hdimension : Expression.Shallow Report.grouped.dimensionFilter := by
    intro tree ht
    cases ht
    decide
  have hmetric : Expression.Shallow Report.grouped.metricFilter :=
    Expression.shallow_within_iff.mpr (Nat.le_refl 48)
  obtain ⟨hrecovers, hinjective, -, -⟩ := ofReport_recovers_iff .grouped
  obtain ⟨request, hr, hread⟩ := hrecovers.mpr ⟨hlimit, hdimension, hmetric⟩
  exact ⟨hlimit, request, hr, hread, fun other => hinjective request other hr⟩

/-- A report whose only condition stands within one group more than can be encoded. -/
def Report.buried : Report where
  propertyId := "123456789"
  dates := .lastWeek
  dimensionNames := ["hostName"]
  metricNames := ["sessions"]
  limit := 10000
  dimensionFilter :=
    some ((FilterTree.leaf ⟨"hostName", .text "shop.example.com" .exact⟩).within 49)
  metricFilter := none

theorem Wire.Request.buried_not_encoded :
    Int64Field.Holds Report.buried.limit ∧
      ∃ type, ofReport .buried = .error (.tooDeep type) := by
  have hlimit : Int64Field.Holds Report.buried.limit := ⟨by decide, by decide⟩
  have hdeep : ¬ Expression.Shallow Report.buried.dimensionFilter := by
    intro h
    exact absurd (Expression.shallow_within_iff.mp h) (by decide)
  exact ⟨hlimit, exists_ofReport_tooDeep_iff.mpr ⟨hlimit, fun h => hdeep h.1⟩⟩

end ReportQuery
