import ReportQuery.Proofs.Connector.Failures
import ReportQuery.Proofs.Filter.Misfits

namespace ReportQuery

def fieldDefect? (field : String × String) : Option Defect :=
  if ColumnKind.all.any fun kind => kind.mark.toList.isPrefixOf field.2.toList then none
  else some (.unclassifiableColumn field.2 (some field.1))

def fieldMessage (field : String × String) : Message :=
  ⟨"unclassifiable_column", "Column " ++ field.2 ++ " is neither a dimension nor a metric",
    [("column", .str field.2), ("field", .str field.1)]⟩

theorem map_message_fieldDefect? (fields : Entries String) :
    (fields.filterMap fieldDefect?).map Defect.message =
      (fields.filter fun field => (fieldDefect? field).isSome).map fieldMessage := by
  induction fields with
  | nil => rfl
  | cons field fields ih =>
    rw [List.filterMap_cons, List.filter_cons]
    cases hd : fieldDefect? field with
    | none => exact ih
    | some d =>
      rw [fieldDefect?] at hd
      split at hd
      · cases hd
      · cases hd
        exact congrArg (fieldMessage field :: ·) ih

theorem ColumnKind.mem_all (kind : ColumnKind) : kind ∈ all := by
  cases kind with
  | dimension => decide
  | metric => decide

theorem any_isPrefixOf_mark_iff {column : String} :
    (ColumnKind.all.any fun kind => kind.mark.toList.isPrefixOf column.toList) ↔
      ∃ ref, ColumnRef.ofName? column = some ref := by
  rw [List.any_eq_true]
  simp only [isPrefixOf_mark_iff, ColumnRef.ofName?_eq_some_iff]
  constructor
  · intro h
    obtain ⟨kind, -, base, hb⟩ := h
    exact ⟨⟨column, base, kind⟩, rfl, hb⟩
  · intro h
    obtain ⟨ref, -, hb⟩ := h
    exact ⟨ref.kind, ref.kind.mem_all, ref.base, hb⟩

theorem Selection.defects_eq_filterMap (fields : Entries String) :
    defects fields = fields.filterMap fieldDefect? := by
  apply List.filterMap_congr
  intro field _
  obtain ⟨name, column⟩ := field
  cases hr : ColumnRef.ofName? column with
  | some ref =>
    have hmark := any_isPrefixOf_mark_iff.mpr ⟨ref, hr⟩
    simp only [fieldDefect?, hr, if_pos hmark]
  | none =>
    have hmark : ¬ ColumnKind.all.any fun kind => kind.mark.toList.isPrefixOf column.toList := by
      intro h
      obtain ⟨ref, hs⟩ := any_isPrefixOf_mark_iff.mp h
      rw [hr] at hs
      cases hs
    simp only [fieldDefect?, hr, if_neg hmark]

/-- All the defects of a query but that of its dates, in the order in which they are reported. -/
def Query.defects (q : Query) : List Defect :=
  (Predicate.filtersOfPart q.predicate).allDefects ++ q.fields.filterMap fieldDefect?

theorem Query.perm_defects (q : Query) :
    q.defects.Perm ((Predicate.clausesOfPart q.predicate).filterMap Clause.defect? ++
      q.fields.filterMap fieldDefect?) := by
  rw [defects, Predicate.filtersOfPart_eq_ofVerdicts]
  exact (FilterLists.perm_allDefects _).append_right _

namespace Defect

variable {d : Defect}

theorem text_ne_empty (h : ∀ m, d ≠ .reported m) : d.text ≠ "" := by
  cases d with
  | reported m => exact absurd rfl (h m)
  | _ =>
    dsimp only [text]
    simp only [ne_eq, String.append_eq_empty_iff, String.reduceEq, false_and, not_false_eq_true]

theorem text_ne_empty_of_misfit? {f : Filter} (h : f.misfit? = some d) : d.text ≠ "" := by
  apply text_ne_empty
  intro m hm
  rw [hm, Filter.misfit?] at h
  split at h
  · cases h
  · cases h
  · split at h
    · cases h
    · cases h

theorem text_ne_empty_of_defect? {clause : Clause} (h : clause.defect? = some d) :
    d.text ≠ "" := by
  rw [Clause.defect?] at h
  cases hv : clause.verdict with
  | ok f =>
    rw [hv] at h
    exact text_ne_empty_of_misfit? h
  | error e =>
    rw [hv] at h
    cases h
    apply text_ne_empty
    intro m hm
    cases clause with
    | comparison target operator operand =>
      rcases Filter.ofComparison_eq_error hv with he | he | he | ⟨o, kind, he⟩
      all_goals
        rw [hm] at he
        cases he
    | _ =>
      rw [hm] at hv
      cases hv

theorem text_ne_empty_of_mem {q : Query} (h : d ∈ q.defects) : d.text ≠ "" := by
  rcases List.mem_append.mp (q.perm_defects.mem_iff.mp h) with h | h
  · obtain ⟨clause, -, hd⟩ := List.mem_filterMap.mp h
    exact text_ne_empty_of_defect? hd
  · obtain ⟨field, -, hd⟩ := List.mem_filterMap.mp h
    rw [fieldDefect?] at hd
    split at hd
    · cases hd
    · cases hd
      exact text_ne_empty nofun

end Defect

/-- A failure that tells of defects: their messages, the dumps of these in the same order, and a
sentence with all of their texts. -/
structure Failure.Reports (failure : Failure) (list : List Defect) : Prop where
  category : failure.category = .badQuery
  messages : failure.messages = list.map Defect.message
  details : failure.details = [("errors", .arr (list.map fun d => d.message.toJson))]
  message : failure.message =
    "Query translation failed: " ++ "; ".intercalate (list.map Defect.text)

theorem intercalate_ne_empty {s t : String} {l : List String} (h : t ≠ "") :
    s.intercalate (t :: l) ≠ "" := by
  intro he
  rw [← String.append_empty (s := t), String.intercalate_cons_append,
    String.append_eq_empty_iff] at he
  exact h he.1

theorem Failure.reports_ofMessages {list : List Defect} (hne : list ≠ [])
    (htext : ∀ d ∈ list, d.text ≠ "") : (ofMessages (list.map Defect.message)).Reports list := by
  cases list with
  | nil => exact absurd rfl hne
  | cons d list =>
    have htexts : ((d :: list).map Defect.message).map Message.text =
        (d :: list).map Defect.text := by
      rw [List.map_map]
      rfl
    have hjoined : "; ".intercalate ((d :: list).map Defect.text) ≠ "" :=
      intercalate_ne_empty (htext d List.mem_cons_self)
    refine ⟨rfl, rfl, ?_, ?_⟩
    · simp [ofMessages, badQuery, Entries.get?]
    · simp only [ofMessages, badQuery, htexts, if_neg hjoined]

namespace Connector

variable {c : Connector} {q : Query} {built : Outcome ReportFilters}

theorem defects_of_build (hb : (Predicate.filtersOfPart q.predicate).build c.scope = .ok built) :
    built.defects ++ Selection.defects q.fields = q.defects := by
  rw [Selection.defects_eq_filterMap, Query.defects]
  rw [Predicate.filtersOfPart_eq_ofVerdicts] at hb ⊢
  rw [FilterLists.defects_of_build (FilterLists.sound_ofVerdicts _) hb]

theorem exists_build_iff :
    (∃ built, (Predicate.filtersOfPart q.predicate).build c.scope = .ok built) ↔
      ∀ clause ∈ Predicate.clausesOfPart q.predicate, ¬ clause.Oversized := by
  rw [← plan_isBadQuery_iff (c := c)]
  constructor
  · intro h e hp
    obtain ⟨built, hb⟩ := h
    rw [PlanError.isBadQuery_iff]
    intro conversion he
    simp [he, plan_eq_error_iff, prepare_eq_error_iff, hb] at hp
  · intro h
    cases hb : (Predicate.filtersOfPart q.predicate).build c.scope with
    | ok built => exact ⟨built, rfl⟩
    | error e =>
      have hp : c.plan q = .error (.conversion e) :=
        plan_eq_error_iff.mpr (.inl (prepare_of_build_error hb))
      exact absurd rfl (PlanError.isBadQuery_iff.mp (h _ hp) e)

theorem plan_eq_defects_iff {list : List Defect} :
    c.plan q = .error (.defects list) ↔
      list = q.defects ∧ list ≠ [] ∧
        ∀ clause ∈ Predicate.clausesOfPart q.predicate, ¬ clause.Oversized := by
  rw [plan_defects_iff, ← exists_build_iff (c := c)]
  constructor
  · intro h
    obtain ⟨built, hb, hne, rfl⟩ := h
    exact ⟨defects_of_build hb, hne, built, hb⟩
  · intro h
    obtain ⟨rfl, hne, built, hb⟩ := h
    exact ⟨built, hb, hne, (defects_of_build hb).symm⟩

theorem defects_of_unsupportedDate {date : UnsupportedDate}
    (hp : c.plan q = .error (.unsupportedDate date)) : q.defects = [] := by
  rcases plan_eq_error_iff.mp hp with h | ⟨⟨⟨filters, selection⟩, h⟩, -⟩
  · rcases prepare_eq_error_iff.mp h with ⟨_, _, he⟩ | ⟨_, _, _, he⟩
    · cases he
    · cases he
  · cases hb : (Predicate.filtersOfPart q.predicate).build c.scope with
    | error e =>
      rw [prepare_of_build_error hb] at h
      cases h
    | ok built =>
      obtain ⟨_, _, hprepare⟩ := prepare_of_build_ok hb
      rw [hprepare] at h
      split at h
      · next hnil => rw [← defects_of_build hb, hnil]
      · cases h

theorem exists_own_defects
    (hb : (Predicate.filtersOfPart q.predicate).build c.scope = .ok built) :
    ∃ own, built.defects = (Predicate.filtersOfPart q.predicate).defects ++ own ∧
      ∀ d ∈ own, d.code = "type_mismatch" := by
  rw [Predicate.filtersOfPart_eq_ofVerdicts] at hb ⊢
  rw [FilterLists.defects_of_build (FilterLists.sound_ofVerdicts _) hb, FilterLists.allDefects,
    List.append_assoc]
  refine ⟨_, rfl, ?_⟩
  intro d hd
  rcases List.mem_append.mp hd with hd | hd
  · obtain ⟨f, -, hf⟩ := List.mem_filterMap.mp hd
    exact Filter.code_of_misfit? hf
  · obtain ⟨f, -, hf⟩ := List.mem_filterMap.mp hd
    exact Filter.code_of_misfit? hf

theorem exists_unwrap (hb : (Predicate.filtersOfPart q.predicate).build c.scope = .ok built)
    (hnil : built.defects ++ (Selection.ofFields q.fields).defects = []) :
    ∃ filters selection, built.unwrap = .ok (some filters) ∧
      (Selection.ofFields q.fields).unwrap = .ok (some selection) ∧
      c.prepare q = .ok (filters, selection) := by
  change built.defects ++ Selection.defects q.fields = [] at hnil
  obtain ⟨filters, hdata, hprepare⟩ := prepare_of_build_ok hb
  rw [if_pos hnil] at hprepare
  obtain ⟨hbuilt, hfields⟩ := List.append_eq_nil_iff.mp hnil
  refine ⟨filters, .split q.fields, ?_, ?_, hprepare⟩
  · obtain ⟨metric, -, rfl⟩ := FilterLists.build_eq_ok_iff.mp hb
    change _ ++ _ ++ _ = [] at hbuilt
    rw [Outcome.unwrap, Outcome.collect, hbuilt, ← hdata]
    rfl
  · rw [Outcome.unwrap, Selection.ofFields, Outcome.collect, hfields]
    rfl

/-- Planning reports all the defects of a query at once: in their order, with a failure that tells
of each, and each clause and each field once. A date is reported only if there are none, and what
is unwrapped then is there. -/
theorem plan_defects_complete (c : Connector) (q : Query) :
    (∀ list, c.plan q = .error (.defects list) ↔
      list = q.defects ∧ list ≠ [] ∧
        ∀ clause ∈ Predicate.clausesOfPart q.predicate, ¬ clause.Oversized) ∧
    (∀ list, c.plan q = .error (.defects list) →
      ∃ failure, (PlanError.defects list).failure? = some failure ∧ failure.Reports list ∧
        failure.messages = (Predicate.filtersOfPart q.predicate).allDefects.map Defect.message ++
          (q.fields.filter fun field => (fieldDefect? field).isSome).map fieldMessage) ∧
    q.defects.Perm ((Predicate.clausesOfPart q.predicate).filterMap Clause.defect? ++
      q.fields.filterMap fieldDefect?) ∧
    (∀ date, c.plan q = .error (.unsupportedDate date) → q.defects = []) ∧
    (Predicate.filtersOfPart q.predicate).Sound ∧
    ∀ built, (Predicate.filtersOfPart q.predicate).build c.scope = .ok built →
      (∃ own, built.defects = (Predicate.filtersOfPart q.predicate).defects ++ own ∧
        ∀ d ∈ own, d.code = "type_mismatch") ∧
      (built.defects ++ (Selection.ofFields q.fields).defects = [] →
        ∃ filters selection, built.unwrap = .ok (some filters) ∧
          (Selection.ofFields q.fields).unwrap = .ok (some selection) ∧
          c.prepare q = .ok (filters, selection)) := by
  refine ⟨fun list => plan_eq_defects_iff, ?_, q.perm_defects,
    fun date => defects_of_unsupportedDate, ?_, fun built hb =>
      ⟨exists_own_defects hb, exists_unwrap hb⟩⟩
  · intro list hp
    obtain ⟨rfl, hne, -⟩ := plan_eq_defects_iff.mp hp
    have hreports := Failure.reports_ofMessages hne fun d => Defect.text_ne_empty_of_mem
    refine ⟨_, rfl, hreports, ?_⟩
    rw [hreports.messages, Query.defects, List.map_append, map_message_fieldDefect?]
  · rw [Predicate.filtersOfPart_eq_ofVerdicts]
    exact FilterLists.sound_ofVerdicts _

end Connector

def Query.muddled : Query where
  fields := [("rate", "ratio"), ("visitors", "metric_activeUsers")]
  predicate := some (.any
    [.comparison (.column "metric_activeUsers") "_gt" (.scalar (.str "many")),
      .comparison (.column "dimension_country") "_eq" (.scalar (.int 1)), .not (.all []),
      .comparison (.column "metric_activeUsers") "_like" (.scalar (.str "1"))])
  limit := none
  dates := none
  nodup_fields := by decide

namespace Connector

theorem plan_defects_complete_muddled :
    ofShop.plan .muddled = .error (.defects Query.muddled.defects) ∧
    Query.muddled.defects.map Defect.code =
      ["or_not_preserved", "unsupported_expression", "operator_kind_mismatch", "type_mismatch",
        "type_mismatch", "unclassifiable_column"] ∧
    ∃ failure, (PlanError.defects Query.muddled.defects).failure? = some failure ∧
      failure.Reports Query.muddled.defects ∧
      failure.messages.getLast? = some ⟨"unclassifiable_column",
        "Column ratio is neither a dimension nor a metric",
        [("column", .str "ratio"), ("field", .str "rate")]⟩ := by
  have hcodes : Query.muddled.defects.map Defect.code =
      ["or_not_preserved", "unsupported_expression", "operator_kind_mismatch", "type_mismatch",
        "type_mismatch", "unclassifiable_column"] := by
    decide +kernel
  have hne : Query.muddled.defects ≠ [] := by
    intro hnil
    rw [hnil] at hcodes
    cases hcodes
  have hbuild : ∃ built,
      (Predicate.filtersOfPart Query.muddled.predicate).build ofShop.scope = .ok built :=
    exists_eq_ok_of_isOk (by decide +kernel)
  obtain ⟨hplan, hfailure, -⟩ := plan_defects_complete ofShop .muddled
  have hp := (hplan _).mpr ⟨rfl, hne, exists_build_iff.mp hbuild⟩
  obtain ⟨failure, hsome, hreports, hmessages⟩ := hfailure _ hp
  have hlast : (Query.muddled.fields.filter fun field => (fieldDefect? field).isSome).map
      fieldMessage = [fieldMessage ("rate", "ratio")] := by rfl
  rw [hlast] at hmessages
  refine ⟨hp, hcodes, failure, hsome, hreports, ?_⟩
  rw [hmessages, List.getLast?_concat]
  rfl

end Connector

end ReportQuery
