import Mathlib.Data.List.Induction
import ReportQuery.Proofs.Connector.Plan
import ReportQuery.Proofs.Predicate.Verdicts

namespace ReportQuery

/-- The fields divided one by one, in their order. -/
inductive Selection.Divides : Entries String → Selection → List Defect → Prop where
  | nil : Divides [] ⟨[], []⟩ []
  | dimension {fields dimensions metrics : Entries String} {defects : List Defect}
      {field x : String} :
    Divides fields ⟨dimensions, metrics⟩ defects →
      Divides ((field, "dimension_" ++ x) :: fields) ⟨(field, x) :: dimensions, metrics⟩ defects
  | metric {fields dimensions metrics : Entries String} {defects : List Defect}
      {field x : String} :
    Divides fields ⟨dimensions, metrics⟩ defects →
      Divides ((field, "metric_" ++ x) :: fields) ⟨dimensions, (field, x) :: metrics⟩ defects
  | neither {fields : Entries String} {s : Selection} {defects : List Defect}
      {field column : String} :
    (∀ (kind : ColumnKind) (x : String), column ≠ kind.mark ++ x) → Divides fields s defects →
      Divides ((field, column) :: fields) s (.unclassifiableColumn column (some field) :: defects)

/-- The base names of a kind among columns, each once and in the order in which they first come. -/
structure FirstNames (kind : ColumnKind) (columns names : List String) : Prop where
  mem : ∀ x, x ∈ names ↔ kind.mark ++ x ∈ columns
  ordered : names.Pairwise fun x y =>
    columns.idxOf (kind.mark ++ x) < columns.idxOf (kind.mark ++ y)

/-- Fields that ask for the same columns in another way. -/
inductive Restates : Entries String → Entries String → Prop where
  | renamed {fields others : Entries String} :
    fields.map (·.2) = others.map (·.2) → Restates fields others
  /-- A further field for a column that another field asks for before it. -/
  | aliased {before after : Entries String} {field column : String} :
    column ∈ before.map (·.2) →
      Restates (before ++ after) (before ++ (field, column) :: after)
  /-- The same fields of dimensions and the same fields of metrics, mixed in another way. -/
  | mixed {fields others : Entries String} {s : Selection} :
    Selection.Divides fields s [] → Selection.Divides others s [] → Restates fields others

/-- The names that a report asks for, by the columns of its fields and by its scope. -/
structure Report.NamesColumns (report : Report) (fields : Entries String) (scope : Scope) :
    Prop where
  metric : FirstNames .metric (fields.map (·.2)) report.metricNames
  dimension : ∃ names, FirstNames .dimension (fields.map (·.2)) names ∧
    report.dimensionNames =
      names ++ if scope.dimension ∈ names then [] else [scope.dimension]
  mem_dimension : ∀ x, x ∈ report.dimensionNames ↔
    "dimension_" ++ x ∈ fields.map (·.2) ∨ x = scope.dimension
  nodup_metric : report.metricNames.Nodup
  nodup_dimension : report.dimensionNames.Nodup

namespace Selection

variable {kind : ColumnKind} {fields others : Entries String} {field column x : String}

theorem fieldsOf_cons_mark (kind : ColumnKind) :
    fieldsOf kind ((field, kind.mark ++ x) :: fields) = (field, x) :: fieldsOf kind fields := by
  simp only [fieldsOf_eq_filterMap]
  rw [List.filterMap_cons_some]
  rw [baseOf?_mark_append, Option.map_some]

theorem fieldsOf_cons_of_ne (h : ∀ x, column ≠ kind.mark ++ x) :
    fieldsOf kind ((field, column) :: fields) = fieldsOf kind fields := by
  simp only [fieldsOf_eq_filterMap]
  rw [List.filterMap_cons_none]
  rw [baseOf?_eq_none_iff.mpr h, Option.map_none]

theorem defects_cons_mark (kind : ColumnKind) :
    defects ((field, kind.mark ++ x) :: fields) = defects fields := by
  have hr : ColumnRef.ofName? (kind.mark ++ x) = some ⟨kind.mark ++ x, x, kind⟩ :=
    ColumnRef.ofName?_eq_some_iff.mpr ⟨rfl, rfl⟩
  simp [defects, hr]

theorem defects_cons_of_ne (h : ∀ (kind : ColumnKind) (x : String), column ≠ kind.mark ++ x) :
    defects ((field, column) :: fields) =
      .unclassifiableColumn column (some field) :: defects fields := by
  simp [defects, ColumnRef.ofName?_eq_none_iff.mpr h]

theorem eq_of_divides {s : Selection} {list : List Defect} (h : Divides fields s list) :
    s = split fields ∧ list = defects fields := by
  induction h with
  | nil => exact ⟨rfl, rfl⟩
  | @dimension fields dimensions metrics list field x _ ih =>
    have hmark : fieldsOf .dimension ((field, "dimension_" ++ x) :: fields) =
        (field, x) :: fieldsOf .dimension fields := fieldsOf_cons_mark .dimension
    have hother : fieldsOf .metric ((field, "dimension_" ++ x) :: fields) =
        fieldsOf .metric fields := fieldsOf_cons_of_ne fun _ => dimension_append_ne
    obtain ⟨hs, rfl⟩ := ih
    cases hs
    rw [split, hmark, hother]
    exact ⟨rfl, (defects_cons_mark .dimension).symm⟩
  | @metric fields dimensions metrics list field x _ ih =>
    have hmark : fieldsOf .metric ((field, "metric_" ++ x) :: fields) =
        (field, x) :: fieldsOf .metric fields := fieldsOf_cons_mark .metric
    have hother : fieldsOf .dimension ((field, "metric_" ++ x) :: fields) =
        fieldsOf .dimension fields := fieldsOf_cons_of_ne fun _ => metric_append_ne
    obtain ⟨hs, rfl⟩ := ih
    cases hs
    rw [split, hmark, hother]
    exact ⟨rfl, (defects_cons_mark .metric).symm⟩
  | neither hc _ ih =>
    obtain ⟨rfl, rfl⟩ := ih
    refine ⟨?_, (defects_cons_of_ne hc).symm⟩
    rw [split, split, fieldsOf_cons_of_ne (hc .dimension), fieldsOf_cons_of_ne (hc .metric)]

theorem exists_divides (fields : Entries String) : ∃ s list, Divides fields s list := by
  induction fields with
  | nil => exact ⟨_, _, .nil⟩
  | cons entry fields ih =>
    obtain ⟨field, column⟩ := entry
    obtain ⟨⟨dimensions, metrics⟩, list, h⟩ := ih
    by_cases hc : ∃ (kind : ColumnKind) (x : String), column = kind.mark ++ x
    · obtain ⟨kind, x, rfl⟩ := hc
      cases kind with
      | dimension => exact ⟨_, _, .dimension h⟩
      | metric => exact ⟨_, _, .metric h⟩
    · exact ⟨_, _, .neither (fun kind x hx => hc ⟨kind, x, hx⟩) h⟩

theorem divides_iff {s : Selection} {list : List Defect} :
    Divides fields s list ↔ s = split fields ∧ list = defects fields := by
  constructor
  · exact eq_of_divides
  · rintro ⟨rfl, rfl⟩
    obtain ⟨s, list, h⟩ := exists_divides fields
    obtain ⟨rfl, rfl⟩ := eq_of_divides h
    exact h

theorem ofFields_eq_collect_iff {s : Selection} {list : List Defect} :
    ofFields fields = .collect s list [] ↔ s = split fields ∧ list = defects fields := by
  constructor
  · intro h
    simp only [ofFields, Outcome.collect, Outcome.mk.injEq, Option.some.injEq] at h
    exact ⟨h.2.1.symm, h.2.2.1.symm⟩
  · rintro ⟨rfl, rfl⟩
    rfl

theorem ofFields_eq_success_iff {s : Selection} :
    ofFields fields = .success s [] ↔ s = split fields ∧ defects fields = [] := by
  have hcollect : Outcome.success s [] = .collect s [] [] := rfl
  rw [hcollect, ofFields_eq_collect_iff, eq_comm (b := defects fields)]

theorem map_base_fieldsOf (kind : ColumnKind) (fields : Entries String) :
    (fieldsOf kind fields).map (·.2) = (fields.map (·.2)).filterMap (baseOf? kind) := by
  rw [fieldsOf_eq_filterMap, List.map_filterMap, List.filterMap_map]
  apply List.filterMap_congr
  intro field _
  rw [Option.map_map]
  exact Option.map_id_apply

end Selection

section Names

variable {kind : ColumnKind} {columns names : List String} {column x : String}

theorem distinct_append_singleton (names : List String) (x : String) :
    distinct (names ++ [x]) = addName (distinct names) x := by
  rw [distinct, List.foldl_append]
  rfl

theorem distinct_append_cons_of_mem (h : x ∈ names) (more : List String) :
    distinct (names ++ x :: more) = distinct (names ++ more) := by
  have hx : addName (distinct names) x = distinct names := if_pos (mem_distinct.mpr h)
  rw [distinct, List.foldl_append, List.foldl_cons]
  change more.foldl addName (addName (distinct names) x) = _
  rw [hx, distinct, ← List.foldl_append]
  rfl

namespace FirstNames

theorem ordered_append (h : FirstNames kind columns names) (more : List String) :
    names.Pairwise fun x y =>
      (columns ++ more).idxOf (kind.mark ++ x) < (columns ++ more).idxOf (kind.mark ++ y) := by
  apply h.ordered.imp_of_mem
  intro x y hx hy hlt
  rwa [List.idxOf_append_of_mem ((h.mem x).mp hx), List.idxOf_append_of_mem ((h.mem y).mp hy)]

theorem append_other (h : FirstNames kind columns names) (hc : ∀ x, column ≠ kind.mark ++ x) :
    FirstNames kind (columns ++ [column]) names := by
  refine ⟨?_, h.ordered_append [column]⟩
  intro x
  rw [h.mem, List.mem_append, List.mem_singleton, or_iff_left (hc x).symm]

theorem append_mark (h : FirstNames kind columns names) (x : String) :
    FirstNames kind (columns ++ [kind.mark ++ x]) (addName names x) := by
  refine ⟨?_, ?_⟩
  · intro y
    rw [mem_addName, h.mem, List.mem_append, List.mem_singleton, ColumnKind.mark_append_inj]
    simp only [true_and]
  · have hordered := h.ordered_append [kind.mark ++ x]
    rw [addName]
    split
    · exact hordered
    · next hx =>
      rw [List.pairwise_append]
      refine ⟨hordered, List.pairwise_singleton _ _, ?_⟩
      intro y hy z hz
      rw [List.mem_singleton.mp hz]
      have hy := (h.mem y).mp hy
      have hx : kind.mark ++ x ∉ columns := fun hm => hx ((h.mem x).mpr hm)
      rw [List.idxOf_append_of_mem hy, List.idxOf_append_of_notMem hx]
      exact Nat.lt_add_right _ (List.idxOf_lt_length_of_mem hy)

theorem of_columns (kind : ColumnKind) (columns : List String) :
    FirstNames kind columns (distinct (columns.filterMap (baseOf? kind))) := by
  induction columns using List.reverseRecOn with
  | nil => exact ⟨fun _ => iff_of_false List.not_mem_nil List.not_mem_nil, .nil⟩
  | append_singleton columns column ih =>
    rw [List.filterMap_append]
    cases hb : baseOf? kind column with
    | none =>
      rw [List.filterMap_cons_none hb, List.filterMap_nil, List.append_nil]
      exact ih.append_other (baseOf?_eq_none_iff.mp hb)
    | some x =>
      rw [List.filterMap_cons_some hb, List.filterMap_nil, distinct_append_singleton,
        baseOf?_eq_some_iff.mp hb]
      exact ih.append_mark x

end FirstNames

end Names

namespace Report

variable {q : Query} {filters : ReportFilters} {propertyId : String} {scope : Scope}
  {dates : DateRange} {fields : Entries String}

theorem firstNames_metric (fields : Entries String) :
    FirstNames .metric (fields.map (·.2)) (Selection.split fields).metricNames := by
  rw [Selection.metricNames, Selection.split, Selection.map_base_fieldsOf]
  exact .of_columns .metric _

theorem firstNames_dimension (fields : Entries String) :
    FirstNames .dimension (fields.map (·.2)) (Selection.split fields).dimensionNames := by
  rw [Selection.dimensionNames, Selection.split, Selection.map_base_fieldsOf]
  exact .of_columns .dimension _

theorem namesColumns_assembled :
    (assembled q filters (.split fields) propertyId scope dates).NamesColumns fields scope := by
  have hdimension := firstNames_dimension fields
  refine ⟨firstNames_metric fields, ⟨_, hdimension, ?_⟩, ?_, nodup_distinct _,
    nodup_addName (nodup_distinct _)⟩
  · change addName _ _ = _
    rw [addName]
    split
    · rw [List.append_nil]
    · rfl
  · intro x
    change x ∈ addName _ _ ↔ _
    rw [mem_addName, hdimension.mem]
    rfl

theorem namesColumns_of_assemble {report : Report}
    (h : assemble q filters (.split fields) propertyId scope = .ok report) :
    report.NamesColumns fields scope := by
  rw [assemble_eq_map, map_eq_ok_iff] at h
  obtain ⟨dates, -, rfl⟩ := h
  exact namesColumns_assembled

end Report

def Query.withFields (q : Query) (fields : Entries String) (h : fields.keys.Nodup) : Query :=
  { q with fields := fields, nodup_fields := h }

namespace Restates

variable {fields others : Entries String}

theorem distinct_bases (h : Restates fields others) (kind : ColumnKind) :
    distinct ((Selection.fieldsOf kind others).map (·.2)) =
      distinct ((Selection.fieldsOf kind fields).map (·.2)) := by
  cases h with
  | renamed hc => rw [Selection.map_base_fieldsOf, Selection.map_base_fieldsOf, hc]
  | @aliased before after field column hm =>
    simp only [Selection.map_base_fieldsOf, List.map_append, List.map_cons, List.filterMap_append]
    cases hb : baseOf? kind column with
    | none => rw [List.filterMap_cons_none hb]
    | some x =>
      have hx : x ∈ (before.map (·.2)).filterMap (baseOf? kind) :=
        List.mem_filterMap.mpr ⟨column, hm, hb⟩
      rw [List.filterMap_cons_some hb, distinct_append_cons_of_mem hx]
  | mixed hf ho =>
    have hs := (Selection.eq_of_divides hf).1.symm.trans (Selection.eq_of_divides ho).1
    rw [Selection.split, Selection.split, Selection.mk.injEq] at hs
    cases kind with
    | dimension => rw [hs.1]
    | metric => rw [hs.2]

theorem defects_eq_nil (h : Restates fields others) (hd : Selection.defects fields = []) :
    Selection.defects others = [] := by
  cases h with
  | renamed hc =>
    rw [Selection.defects_eq_nil_iff] at hd ⊢
    intro entry hm
    have hcolumn : entry.2 ∈ fields.map (·.2) := hc ▸ List.mem_map.mpr ⟨entry, hm, rfl⟩
    obtain ⟨other, ho, he⟩ := List.mem_map.mp hcolumn
    rw [← he]
    exact hd other ho
  | aliased hm =>
    rw [Selection.defects_eq_nil_iff] at hd ⊢
    rw [List.forall_mem_append] at hd ⊢
    obtain ⟨entry, he, rfl⟩ := List.mem_map.mp hm
    exact ⟨hd.1, List.forall_mem_cons.mpr ⟨hd.1 entry he, hd.2⟩⟩
  | mixed _ ho => exact (Selection.eq_of_divides ho).2.symm

theorem metricNames_eq (h : Restates fields others) :
    (Selection.split others).metricNames = (Selection.split fields).metricNames :=
  h.distinct_bases .metric

theorem dimensionNames_eq (h : Restates fields others) :
    (Selection.split others).dimensionNames = (Selection.split fields).dimensionNames :=
  h.distinct_bases .dimension

theorem assemble_eq {q : Query} {hn : others.keys.Nodup} (h : Restates q.fields others)
    (filters : ReportFilters) (propertyId : String) (scope : Scope) :
    Report.assemble (q.withFields others hn) filters (.split others) propertyId scope =
      Report.assemble q filters (.split q.fields) propertyId scope := by
  have hassembled : Report.assembled (q.withFields others hn) filters (.split others) propertyId
      scope = Report.assembled q filters (.split q.fields) propertyId scope := by
    funext dates
    simp only [Report.assembled, Report.dimensionsFor, h.metricNames_eq, h.dimensionNames_eq,
      Query.withFields]
  rw [Report.assemble_eq_map, Report.assemble_eq_map, hassembled, Query.withFields]

end Restates

namespace Connector

variable {c : Connector} {q : Query} {others : Entries String} {hn : others.keys.Nodup}

theorem prepare_withFields (hd : Selection.defects q.fields = [])
    (ho : Selection.defects others = []) :
    c.prepare (q.withFields others hn) =
      (c.prepare q).map fun parts => (parts.1, .split others) := by
  cases hb : (Predicate.filtersOfPart q.predicate).build c.scope with
  | error e =>
    have hother : (Predicate.filtersOfPart (q.withFields others hn).predicate).build c.scope =
        .error e := hb
    rw [prepare_of_build_error hb, prepare_of_build_error hother]
    rfl
  | ok built =>
    have hother : (Predicate.filtersOfPart (q.withFields others hn).predicate).build c.scope =
        .ok built := hb
    obtain ⟨filters, hf, hp⟩ := prepare_of_build_ok hb
    obtain ⟨filters', hf', hp'⟩ := prepare_of_build_ok hother
    have hfields : (q.withFields others hn).fields = others := rfl
    rw [hf, Option.some.injEq] at hf'
    rw [hp, hp', hfields, hd, ho, hf']
    split
    · rfl
    · rfl

theorem plan_withFields (h : Restates q.fields others) (hd : Selection.defects q.fields = []) :
    (c.plan (q.withFields others hn)).map Plan.report = (c.plan q).map Plan.report := by
  rw [plan, plan, prepare_withFields hd (h.defects_eq_nil hd)]
  cases hp : c.prepare q with
  | error e => rfl
  | ok parts =>
    obtain ⟨filters, selection⟩ := parts
    obtain ⟨-, -, rfl⟩ := prepare_eq_ok_iff.mp hp
    simp only [Except.map, bind, Except.bind, h.assemble_eq]
    cases Report.assemble q filters (.split q.fields) c.propertyId c.scope with
    | error e => rfl
    | ok report => rfl

end Connector

/-- The fields of a query are divided in one way, and where none is a defect, every report that is
assembled for them names each column once. Fields that restate them have the same report. -/
theorem Query.report_of_columns (q : Query) :
    (∀ s defects, Selection.Divides q.fields s defects ↔
      Selection.ofFields q.fields = .collect s defects []) ∧
    (∀ s, Selection.ofFields q.fields = .success s [] → ∀ filters propertyId scope report,
      Report.assemble q filters s propertyId scope = .ok report →
        report.NamesColumns q.fields scope) ∧
    ∀ s, Selection.ofFields q.fields = .success s [] → ∀ others hn, Restates q.fields others →
      (∃ other, Selection.ofFields others = .success other [] ∧ ∀ filters propertyId scope,
        Report.assemble (q.withFields others hn) filters other propertyId scope =
          Report.assemble q filters s propertyId scope) ∧
      ∀ c : Connector,
        (c.plan (q.withFields others hn)).map Plan.report = (c.plan q).map Plan.report := by
  refine ⟨?_, ?_, ?_⟩
  · intro s defects
    rw [Selection.divides_iff, Selection.ofFields_eq_collect_iff]
  · intro s hs filters propertyId scope report hr
    obtain ⟨rfl, -⟩ := Selection.ofFields_eq_success_iff.mp hs
    exact Report.namesColumns_of_assemble hr
  · intro s hs others hn h
    obtain ⟨rfl, hd⟩ := Selection.ofFields_eq_success_iff.mp hs
    have ho := Selection.ofFields_eq_success_iff.mpr ⟨rfl, h.defects_eq_nil hd⟩
    exact ⟨⟨_, ho, h.assemble_eq⟩, fun c => Connector.plan_withFields h hd⟩

def Query.moreVisits : Entries String :=
  Query.visits.fields ++ [("sessions", "metric_sessions")]

theorem Query.report_of_columns_visits :
    Selection.Divides Query.visits.fields
      ⟨[("country", "country"), ("land", "country")], [("visits", "sessions")]⟩ [] ∧
    (∃ report, Report.assemble .visits ⟨none, none⟩ (.split Query.visits.fields) "123456789"
        ⟨"hostName", "a"⟩ = .ok report ∧
      report.NamesColumns Query.visits.fields ⟨"hostName", "a"⟩) ∧
    ∃ hn : moreVisits.keys.Nodup, Restates Query.visits.fields moreVisits ∧
      (Connector.ofShop.plan (Query.visits.withFields moreVisits hn)).map Plan.report =
        .ok .visits := by
  obtain ⟨hdivides, hnames, hrestates⟩ := Query.visits.report_of_columns
  have hs : Selection.ofFields Query.visits.fields = .success (.split Query.visits.fields) [] :=
    Selection.ofFields_eq_success_iff.mpr ⟨rfl, by decide +kernel⟩
  have hmore : Restates Query.visits.fields moreVisits :=
    @Restates.aliased Query.visits.fields [] "sessions" "metric_sessions" (by decide)
  refine ⟨(hdivides _ _).mpr rfl, ?_, by decide, hmore, ?_⟩
  · exact ⟨_, rfl, hnames _ hs ⟨none, none⟩ "123456789" ⟨"hostName", "a"⟩ _ rfl⟩
  · rw [(hrestates _ hs _ _ hmore).2 Connector.ofShop, plan_visits]
    rfl

end ReportQuery
