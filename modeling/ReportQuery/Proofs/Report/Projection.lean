import ReportQuery.Proofs.Report.Row

namespace ReportQuery

/-- The shortfalls of rows: too few values for the dimensions or for the metrics of a selection. -/
inductive Shortfall (s : Selection) (rows : List Row) : RowError → Prop where
  | dimensions {i : Nat} {row : Row} :
    rows[i]? = some row → row.dimensionValues.length < s.dimensionNames.length →
      Shortfall s rows
        (.missingDimensions i s.dimensionNames.length row.dimensionValues.length)
  | metrics {i : Nat} {row : Row} :
    rows[i]? = some row → row.metricValues.length < s.metricNames.length →
      Shortfall s rows (.missingMetrics i s.metricNames.length row.metricValues.length)

/-- The place of an error in the order of rows, and in a row of dimensions before metrics. -/
def RowError.place : RowError → Nat
  | noRows .. => 0
  | missingDimensions row .. => 2 * row
  | missingMetrics row .. => 2 * row + 1

/-- The text on an error: for what there are no rows, or in which row how many values are missing
from how many. -/
inductive RowError.Says : RowError → String → Prop where
  | noRows {dimensions metrics : List String} :
    Says (.noRows dimensions metrics)
      ("No rows in GA4 response for dimensions " ++ listLiteral dimensions ++ " and metrics " ++
        listLiteral metrics)
  | dimensions {row expected actual : Nat} :
    Says (.missingDimensions row expected actual)
      ("Row " ++ toString row ++ " missing dimensions: expected " ++ toString expected ++
        ", got " ++ toString actual)
  | metrics {row expected actual : Nat} :
    Says (.missingMetrics row expected actual)
      ("Row " ++ toString row ++ " missing metrics: expected " ++ toString expected ++
        ", got " ++ toString actual)

theorem RowError.says_message (e : RowError) : e.Says e.message := by
  cases e with
  | noRows => exact .noRows
  | missingDimensions => exact .dimensions
  | missingMetrics => exact .metrics

/-- What a refused response tells. Without rows it is that there are none, with a suggestion; else
it is every shortfall once, in the order of their places. The details list the texts. -/
structure BadResponse.Tells (e : BadResponse) (s : Selection) (rows : List Row) : Prop where
  listed : ∃ texts, Entries.get? "errors" e.details = some (.strings texts) ∧
    List.Forall₂ RowError.Says e.errors texts
  empty : rows = [] → e.errors = [.noRows s.dimensionNames s.metricNames] ∧
    Entries.get? "suggestion" e.details = some (.str suggestion)
  shortfalls : rows ≠ [] → (∀ error, error ∈ e.errors ↔ Shortfall s rows error) ∧
    e.errors.Pairwise (fun a b => a.place < b.place) ∧
    Entries.get? "suggestion" e.details = none

namespace Selection

variable {s : Selection} {rows : List Row} {report : Option Report}

/-- An output row with the fields of dimensions, then those of metrics. The column of each field is
among the names, the row has a value at its place, and the field has this value. -/
structure Reads (s : Selection) (row : Row) (out : OutputRow) : Prop where
  keys : Entries.keys out = s.dimensions.keys ++ s.metrics.keys
  dimension : ∀ field base, (field, base) ∈ s.dimensions → ∃ (i : Nat) (value given : _),
    s.dimensionNames[i]? = some base ∧ row.dimensionValues[i]? = some value ∧
      Entries.get? field out = some given ∧ ShownAs value given
  metric : ∀ field base, (field, base) ∈ s.metrics → ∃ (i : Nat) (value given : _),
    s.metricNames[i]? = some base ∧ row.metricValues[i]? = some value ∧
      Entries.get? field out = some given ∧ ShownAs value given

/-- Rows that have the same values at the places of the selected columns. -/
structure Agree (s : Selection) (row other : Row) : Prop where
  dimension : row.dimensionValues.take s.dimensionNames.length =
    other.dimensionValues.take s.dimensionNames.length
  metric : row.metricValues.take s.metricNames.length =
    other.metricValues.take s.metricNames.length

section Values

variable {names : List String} {values others : List (Option String)} {fields : Entries String}
  {field base : String}

theorem getElem?_idxOf (h : base ∈ names) : names[names.idxOf base]? = some base := by
  rw [List.getElem?_eq_getElem (List.idxOf_lt_length_of_mem h), List.getElem_idxOf]

theorem exists_valueOf (hb : base ∈ names) (hlen : names.length ≤ values.length) :
    ∃ value, values[names.idxOf base]? = some value ∧ valueOf names values base = shown value := by
  have hi : names.idxOf base < values.length :=
    Nat.lt_of_lt_of_le (List.idxOf_lt_length_of_mem hb) hlen
  have hv : values[names.idxOf base]? = some values[names.idxOf base] :=
    List.getElem?_eq_getElem hi
  refine ⟨_, hv, ?_⟩
  rw [valueOf, hv, Option.getD_some]

theorem exists_mem_project (hlen : (distinct (fields.map (·.2))).length ≤ values.length)
    (hm : (field, base) ∈ fields) :
    ∃ (i : Nat) (value : _),
      (distinct (fields.map (·.2)))[i]? = some base ∧ values[i]? = some value ∧
      (field, shown value) ∈ project fields (distinct (fields.map (·.2))) values := by
  have hb : base ∈ distinct (fields.map (·.2)) :=
    mem_distinct.mpr (List.mem_map.mpr ⟨_, hm, rfl⟩)
  obtain ⟨value, hi, hv⟩ := exists_valueOf hb hlen
  refine ⟨_, value, getElem?_idxOf hb, hi, ?_⟩
  rw [← hv]
  exact List.mem_map.mpr ⟨_, hm, rfl⟩

theorem valueOf_congr (hb : base ∈ names)
    (h : values.take names.length = others.take names.length) :
    valueOf names values base = valueOf names others base := by
  have hi : names.idxOf base < names.length := List.idxOf_lt_length_of_mem hb
  have hv : values[names.idxOf base]? = others[names.idxOf base]? := by
    rw [← List.getElem?_take_of_lt hi, h, List.getElem?_take_of_lt hi]
  rw [valueOf, valueOf, hv]

theorem project_congr
    (h : values.take (distinct (fields.map (·.2))).length =
      others.take (distinct (fields.map (·.2))).length) :
    project fields (distinct (fields.map (·.2))) values =
      project fields (distinct (fields.map (·.2))) others := by
  apply List.map_congr_left
  intro entry hm
  obtain ⟨field, base⟩ := entry
  have hb : base ∈ distinct (fields.map (·.2)) :=
    mem_distinct.mpr (List.mem_map.mpr ⟨_, hm, rfl⟩)
  exact congrArg (Prod.mk field) (valueOf_congr hb h)

theorem length_le_of_take_eq {n : Nat} (hlen : n ≤ values.length)
    (h : values.take n = others.take n) : n ≤ others.length := by
  have hl := congrArg List.length h
  rw [List.length_take, List.length_take] at hl
  omega

end Values

theorem reads_outputRow (hn : (s.dimensions.keys ++ s.metrics.keys).Nodup) {row : Row}
    (hc : s.Covers row) : s.Reads row (s.outputRow row) := by
  have hkeys := s.keys_projections row
  rw [outputRow_of_nodup hn row]
  rw [← hkeys] at hn
  refine ⟨hkeys, ?_, ?_⟩
  · intro field base hm
    obtain ⟨i, value, hi, hv, hp⟩ := exists_mem_project hc.1 hm
    exact ⟨i, value, _, hi, hv, Entries.get?_eq_some_of_mem hn (List.mem_append_left _ hp),
      shownAs_shown value⟩
  · intro field base hm
    obtain ⟨i, value, hi, hv, hp⟩ := exists_mem_project hc.2 hm
    exact ⟨i, value, _, hi, hv, Entries.get?_eq_some_of_mem hn (List.mem_append_right _ hp),
      shownAs_shown value⟩

namespace Agree

variable {row other : Row}

theorem covers (h : s.Agree row other) (hc : s.Covers row) : s.Covers other :=
  ⟨length_le_of_take_eq hc.1 h.dimension, length_le_of_take_eq hc.2 h.metric⟩

theorem outputRow_eq (h : s.Agree row other) : s.outputRow row = s.outputRow other := by
  have hd := project_congr h.dimension
  have hm := project_congr h.metric
  rw [outputRow, outputRow]
  exact congrArg Entries.ofList (congr (congrArg _ hd) hm)

end Agree

theorem mapRows_of_agree {others : List Row} {mapped : List OutputRow}
    (h : s.mapRows rows report = .ok mapped) (ha : List.Forall₂ s.Agree rows others) :
    s.mapRows others report = .ok mapped := by
  obtain ⟨hne, hcovers, rfl⟩ := mapRows_eq_ok_iff.mp h
  have hboth : (∀ other ∈ others, s.Covers other) ∧
      rows.map s.outputRow = others.map s.outputRow := by
    clear h hne
    induction ha with
    | nil => exact ⟨nofun, rfl⟩
    | cons hagree _ ih =>
      rw [List.forall_mem_cons] at hcovers
      obtain ⟨htail, hmap⟩ := ih hcovers.2
      refine ⟨List.forall_mem_cons.mpr ⟨hagree.covers hcovers.1, htail⟩, ?_⟩
      rw [List.map_cons, List.map_cons, hagree.outputRow_eq, hmap]
  refine mapRows_eq_ok_iff.mpr ⟨?_, hboth.1, hboth.2⟩
  rintro rfl
  exact hne (List.forall₂_nil_right_iff.mp ha)

def shortfallsAt (s : Selection) (i : Nat) (row : Row) : List RowError :=
  (if row.dimensionValues.length < s.dimensionNames.length then
      [.missingDimensions i s.dimensionNames.length row.dimensionValues.length] else []) ++
    if row.metricValues.length < s.metricNames.length then
      [.missingMetrics i s.metricNames.length row.metricValues.length] else []

theorem shortfalls_eq_flatMap (s : Selection) (i : Nat) (rows : List Row) :
    s.shortfalls i rows = (rows.zipIdx i).flatMap fun p => s.shortfallsAt p.2 p.1 := by
  induction rows generalizing i with
  | nil => rfl
  | cons row rows ih => rw [shortfalls, ih, List.zipIdx_cons, List.flatMap_cons]; rfl

theorem mem_shortfallsAt {i : Nat} {row : Row} {e : RowError} :
    e ∈ s.shortfallsAt i row ↔
      (row.dimensionValues.length < s.dimensionNames.length ∧
        e = .missingDimensions i s.dimensionNames.length row.dimensionValues.length) ∨
      (row.metricValues.length < s.metricNames.length ∧
        e = .missingMetrics i s.metricNames.length row.metricValues.length) := by
  rw [shortfallsAt, List.mem_append]
  apply or_congr
  · split
    · next h => simp [h]
    · next h => simp [h]
  · split
    · next h => simp [h]
    · next h => simp [h]

theorem mem_shortfalls {e : RowError} : e ∈ s.shortfalls 0 rows ↔ Shortfall s rows e := by
  rw [shortfalls_eq_flatMap, List.mem_flatMap]
  simp only [Prod.exists, List.mem_zipIdx_iff_getElem?, mem_shortfallsAt]
  constructor
  · intro h
    obtain ⟨row, i, hr, ⟨hlt, rfl⟩ | ⟨hlt, rfl⟩⟩ := h
    · exact .dimensions hr hlt
    · exact .metrics hr hlt
  · intro h
    cases h with
    | dimensions hr hlt => exact ⟨_, _, hr, .inl ⟨hlt, rfl⟩⟩
    | metrics hr hlt => exact ⟨_, _, hr, .inr ⟨hlt, rfl⟩⟩

theorem place_of_mem_shortfallsAt {i : Nat} {row : Row} {e : RowError}
    (h : e ∈ s.shortfallsAt i row) : 2 * i ≤ e.place ∧ e.place ≤ 2 * i + 1 := by
  rcases mem_shortfallsAt.mp h with ⟨-, rfl⟩ | ⟨-, rfl⟩
  · simp only [RowError.place]
    omega
  · simp only [RowError.place]
    omega

theorem pairwise_shortfallsAt (i : Nat) (row : Row) :
    (s.shortfallsAt i row).Pairwise fun a b => a.place < b.place := by
  rw [shortfallsAt]
  split
  · split
    · simp [RowError.place]
    · simp
  · split
    · simp
    · simp

theorem pairwise_shortfalls (s : Selection) (i : Nat) (rows : List Row) :
    (s.shortfalls i rows).Pairwise fun a b => a.place < b.place := by
  rw [shortfalls_eq_flatMap, List.pairwise_flatMap]
  refine ⟨fun p _ => pairwise_shortfallsAt p.2 p.1, ?_⟩
  have hindices : (rows.zipIdx i).Pairwise fun p q => p.2 < q.2 := by
    rw [← List.pairwise_map (f := Prod.snd), List.zipIdx_map_snd]
    exact List.pairwise_lt_range'
  apply hindices.imp
  intro p q hlt a ha b hb
  have hplace := place_of_mem_shortfallsAt ha
  have hplace' := place_of_mem_shortfallsAt hb
  omega

theorem mapRows_eq_error_iff {e : BadResponse} :
    s.mapRows rows report = .error e ↔
      s.rowErrors rows ≠ [] ∧ e = ⟨s.rowErrors rows, s, report⟩ := by
  rw [mapRows]
  cases s.rowErrors rows with
  | nil => simp
  | cons error errors => simp [eq_comm]

end Selection

namespace BadResponse

variable {e : BadResponse}

theorem exists_texts (e : BadResponse) :
    ∃ texts, Entries.get? "errors" e.details = some (.strings texts) ∧
      List.Forall₂ RowError.Says e.errors texts := by
  refine ⟨e.errors.map RowError.message, by simp [details, Entries.get?], ?_⟩
  rw [List.forall₂_map_right_iff]
  exact List.forall₂_same.mpr fun error _ => error.says_message

theorem get?_suggestion : Entries.get? "suggestion" e.details =
    if e.isEmpty then some (.str suggestion) else none := by
  rw [details]
  cases e.report with
  | none => cases e.isEmpty <;> simp [Entries.get?]
  | some report => cases e.isEmpty <;> simp [Entries.get?]

theorem isEmpty_iff {s : Selection} {rows : List Row} {report : Option Report} :
    (mk (s.rowErrors rows) s report).isEmpty ↔ rows = [] := by
  cases rows with
  | nil => exact iff_of_true rfl rfl
  | cons row rows =>
    refine iff_of_false ?_ (List.cons_ne_nil _ _)
    rw [isEmpty, List.any_eq_true]
    rintro ⟨error, hm, hno⟩
    cases Selection.mem_shortfalls.mp hm with
    | dimensions => cases hno
    | metrics => cases hno

end BadResponse

namespace Selection

variable {s : Selection} {rows : List Row} {report : Option Report}

theorem tells_of_mapRows {e : BadResponse} (h : s.mapRows rows report = .error e) :
    e.Tells s rows := by
  obtain ⟨-, rfl⟩ := mapRows_eq_error_iff.mp h
  refine ⟨BadResponse.exists_texts _, ?_, ?_⟩
  · rintro rfl
    exact ⟨rfl, BadResponse.get?_suggestion⟩
  · intro hne
    have hempty : ¬ (BadResponse.mk (s.rowErrors rows) s report).isEmpty := by
      rwa [BadResponse.isEmpty_iff]
    rw [BadResponse.get?_suggestion, if_neg hempty]
    cases rows with
    | nil => exact absurd rfl hne
    | cons row rows => exact ⟨fun _ => mem_shortfalls, pairwise_shortfalls s 0 _, rfl⟩

/-- Rows are projected all or not at all. They are exactly if there are some and each covers the
selection; each field of each row then has the value at the place of its column, and values behind
the selected columns have no influence. Otherwise all the shortfalls are told, or that there are no
rows. -/
theorem mapRows_exact (hn : (s.dimensions.keys ++ s.metrics.keys).Nodup) (rows : List Row)
    (report : Option Report) :
    ((∃ mapped, s.mapRows rows report = .ok mapped) ↔ rows ≠ [] ∧ ∀ row ∈ rows, s.Covers row) ∧
    (∀ mapped, s.mapRows rows report = .ok mapped →
      List.Forall₂ s.Reads rows mapped ∧
      ∀ others, List.Forall₂ s.Agree rows others → s.mapRows others report = .ok mapped) ∧
    ∀ e, s.mapRows rows report = .error e → e.Tells s rows := by
  refine ⟨?_, ?_, fun _ => tells_of_mapRows⟩
  · constructor
    · intro h
      obtain ⟨mapped, h⟩ := h
      obtain ⟨hne, hcovers, -⟩ := mapRows_eq_ok_iff.mp h
      exact ⟨hne, hcovers⟩
    · intro h
      exact ⟨_, mapRows_eq_ok_iff.mpr ⟨h.1, h.2, rfl⟩⟩
  · intro mapped h
    refine ⟨?_, fun others => mapRows_of_agree h⟩
    obtain ⟨-, hcovers, rfl⟩ := mapRows_eq_ok_iff.mp h
    rw [List.forall₂_map_right_iff, List.forall₂_same]
    intro row hrow
    exact reads_outputRow hn (hcovers row hrow)

def aliased : Selection :=
  ⟨[("country", "country"), ("land", "country"), ("city", "city")], [("visits", "sessions")]⟩

theorem mapRows_exact_aliased :
    let mapped : List OutputRow :=
      [[("country", some "DE"), ("land", some "DE"), ("city", none), ("visits", none)]]
    (aliased.dimensions.keys ++ aliased.metrics.keys).Nodup ∧
    (aliased.mapRows [⟨[some "DE", some "", some "extra"], [none]⟩] none = .ok mapped ∧
      List.Forall₂ aliased.Reads [⟨[some "DE", some "", some "extra"], [none]⟩] mapped) ∧
    ∃ e, aliased.mapRows [⟨[some "DE"], []⟩, ⟨[none, none], [none]⟩, ⟨[], [none]⟩] none = .error e ∧
      e.errors = [.missingDimensions 0 2 1, .missingMetrics 0 1 0, .missingDimensions 2 2 0] ∧
      Entries.get? "errors" e.details = some (.strings
        ["Row 0 missing dimensions: expected 2, got 1", "Row 0 missing metrics: expected 1, got 0",
          "Row 2 missing dimensions: expected 2, got 0"]) ∧
      e.Tells aliased [⟨[some "DE"], []⟩, ⟨[none, none], [none]⟩, ⟨[], [none]⟩] := by
  intro mapped
  have hn : (aliased.dimensions.keys ++ aliased.metrics.keys).Nodup := by decide
  refine ⟨hn, ⟨rfl, ?_⟩, ⟨_, rfl, rfl, rfl, ?_⟩⟩
  · exact ((mapRows_exact hn _ none).2.1 _ rfl).1
  · exact (mapRows_exact hn _ none).2.2 _ rfl

end Selection

end ReportQuery
