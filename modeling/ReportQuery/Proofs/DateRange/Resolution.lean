import ReportQuery.Proofs.DateRange.Days

namespace ReportQuery

namespace DateRange

open Day Entries

def Absent (key : String) (value : Entries Json) : Prop :=
  ∀ v, get? key value = some v → v.isPresent = false

/-- The value of a bound: under the first of its keys if one is present there, otherwise under the
second, and none if neither has one. -/
inductive Chosen (first second : String) (value : Entries Json) : Option Json → Prop where
  | first {v : Json} :
    get? first value = some v → v.isPresent → Chosen first second value (some v)
  | second {v : Json} :
    Absent first value → get? second value = some v → v.isPresent →
      Chosen first second value (some v)
  | missing : Absent first value → Absent second value → Chosen first second value none

def Alone (first second : String) (value : Entries Json) (v : Json) : Prop :=
  v.isPresent ∧ (get? first value = some v ∧ Absent second value ∨
    Absent first value ∧ get? second value = some v)

/-- A bound that is kept from one map to another: its keys have the same values, or a value has
moved between them. -/
inductive SameBound (first second : String) (value value' : Entries Json) : Prop where
  | kept :
    get? first value = get? first value' → get? second value = get? second value' →
      SameBound first second value value'
  | moved {v : Json} :
    Alone first second value v → Alone first second value' v → SameBound first second value value'

inductive Dated : Option Json → String → Prop where
  | mk {v : Json} {d : Day} {date : String} :
    d.DenotedBy v → Date d date.toList → Dated (some v) date

/-- What a literal range is resolved to, by the values of its bounds. -/
inductive Resolves (first? last? : Option Json) : Except UnsupportedDate DateRange → Prop where
  | range {r : DateRange} :
    Dated first? r.first → Dated last? r.last → Resolves first? last? (.ok r)
  | badFirst : (∀ date, ¬ Dated first? date) → Resolves first? last? (.error ⟨first?.getD .null⟩)
  | badLast {date : String} :
    Dated first? date → (∀ date', ¬ Dated last? date') →
      Resolves first? last? (.error ⟨last?.getD .null⟩)

section Choice

variable {first second : String} {value value' : Entries Json} {v? : Option Json} {date : String}

theorem absent_iff {key : String} :
    Absent key value ↔ (get? key value).filter Json.isPresent = none := by
  simp only [Absent, Option.filter_eq_none_iff, Bool.not_eq_true]

/-- The choice as a computation: it always has a result, and only one. -/
theorem chosen_iff :
    Chosen first second value v? ↔
      ((get? first value).filter Json.isPresent).or ((get? second value).filter Json.isPresent) =
        v? := by
  constructor
  · intro h
    cases h with
    | first hg hv => rw [hg, Option.filter_some, if_pos hv, Option.some_or]
    | second habsent hg hv =>
      rw [absent_iff.mp habsent, hg, Option.filter_some, if_pos hv, Option.none_or]
    | missing habsent hmissing => rw [absent_iff.mp habsent, absent_iff.mp hmissing, Option.none_or]
  · rintro rfl
    cases hfirst : (get? first value).filter Json.isPresent with
    | some v =>
      obtain ⟨hg, hv⟩ := Option.filter_eq_some_iff.mp hfirst
      exact .first hg hv
    | none =>
      cases hsecond : (get? second value).filter Json.isPresent with
      | some v =>
        obtain ⟨hg, hv⟩ := Option.filter_eq_some_iff.mp hsecond
        exact .second (absent_iff.mpr hfirst) hg hv
      | none => exact .missing (absent_iff.mpr hfirst) (absent_iff.mpr hsecond)

theorem exists_chosen (first second : String) (value : Entries Json) :
    ∃ v?, Chosen first second value v? :=
  ⟨_, chosen_iff.mpr rfl⟩

theorem Chosen.iff_eq (h : Chosen first second value v?) (w? : Option Json) :
    Chosen first second value w? ↔ w? = v? := by
  rw [chosen_iff, chosen_iff.mp h, eq_comm]

theorem Chosen.bound_eq (h : Chosen first second value v?) :
    bound first second value = v?.getD .null := by
  rw [DateRange.bound_eq, chosen_iff.mp h]

theorem Alone.chosen {v : Json} (h : Alone first second value v) :
    Chosen first second value (some v) := by
  obtain ⟨hv, ⟨hg, -⟩ | ⟨habsent, hg⟩⟩ := h
  · exact .first hg hv
  · exact .second habsent hg hv

theorem SameBound.bound_eq (h : SameBound first second value value') :
    bound first second value = bound first second value' := by
  cases h with
  | kept hfirst hsecond => rw [DateRange.bound_eq, DateRange.bound_eq, hfirst, hsecond]
  | moved halone halone' => rw [halone.chosen.bound_eq, halone'.chosen.bound_eq]

theorem normalize_chosen_iff (h : Chosen first second value v?) :
    normalize (bound first second value) = .ok date ↔ Dated v? date := by
  rw [h.bound_eq]
  cases v? with
  | none => exact iff_of_false nofun nofun
  | some v =>
    constructor
    · intro hdate
      obtain ⟨d, hd⟩ := exists_denotedBy_of_normalize hdate
      exact .mk hd (date_of_normalize hd hdate)
    · intro hdated
      cases hdated with
      | mk hd hdate =>
        obtain ⟨date', hnormal, hdate'⟩ := exists_normalize_of_denotedBy hd
        rw [Option.getD_some, hnormal, String.toList_inj.mp (hdate'.text_unique hdate)]

end Choice

section Literals

variable {argument other : DateArgument} {range range' : DateRange} {e : UnsupportedDate}
  {first? last? : Option Json}

theorem resolve_literal_eq_error_iff (h : argument.type = "literal") :
    resolve (some argument) = .error e ↔
      normalize (bound "start_date" "startDate" argument.value) = .error e ∨
        (∃ date, normalize (bound "start_date" "startDate" argument.value) = .ok date) ∧
          normalize (bound "end_date" "endDate" argument.value) = .error e := by
  simp only [resolve, h, ne_eq, not_true_eq_false, if_false, bind_eq_error_iff]
  apply or_congr_right
  constructor
  · intro hr
    obtain ⟨date, hf, hl | ⟨_, -, hr⟩⟩ := hr
    · exact ⟨⟨date, hf⟩, hl⟩
    · cases hr
  · intro hr
    obtain ⟨⟨date, hf⟩, hl⟩ := hr
    exact ⟨date, hf, .inl hl⟩

theorem resolves_of_literal (h : argument.type = "literal")
    (hfirst : Chosen "start_date" "startDate" argument.value first?)
    (hlast : Chosen "end_date" "endDate" argument.value last?) :
    Resolves first? last? (resolve (some argument)) := by
  have hbad {first second : String} {v? : Option Json} {e : UnsupportedDate}
      (hv : Chosen first second argument.value v?)
      (he : normalize (bound first second argument.value) = .error e) :
      e = ⟨v?.getD .null⟩ ∧ ∀ date, ¬ Dated v? date := by
    refine ⟨hv.bound_eq ▸ value_of_normalize_error he, ?_⟩
    intro date hdated
    rw [(normalize_chosen_iff hv).mpr hdated] at he
    cases he
  cases hr : resolve (some argument) with
  | ok range =>
    obtain ⟨hf, hl⟩ := (resolve_literal_eq_ok_iff h).mp hr
    exact .range ((normalize_chosen_iff hfirst).mp hf) ((normalize_chosen_iff hlast).mp hl)
  | error e =>
    rcases (resolve_literal_eq_error_iff h).mp hr with hf | ⟨⟨date, hf⟩, hl⟩
    · obtain ⟨rfl, hnone⟩ := hbad hfirst hf
      exact .badFirst hnone
    · obtain ⟨rfl, hnone⟩ := hbad hlast hl
      exact .badLast ((normalize_chosen_iff hfirst).mp hf) hnone

theorem Dated.length {v? : Option Json} {date : String} (h : Dated v? date) :
    date.toList.length = 10 := by
  cases h with
  | mk hd hdate => exact hdate.length

theorem resolve_eq_lastWeek_iff {dates : Option DateArgument} :
    resolve dates = .ok lastWeek ↔
      ∀ argument, dates = some argument → argument.type ≠ "literal" := by
  constructor
  · intro hweek argument harg htype
    subst harg
    obtain ⟨first?, hfirst⟩ := exists_chosen "start_date" "startDate" argument.value
    obtain ⟨last?, hlast⟩ := exists_chosen "end_date" "endDate" argument.value
    have hresolves := resolves_of_literal htype hfirst hlast
    rw [hweek] at hresolves
    cases hresolves with
    | range hf hl => cases hf.length
  · intro h
    cases dates with
    | none => rfl
    | some argument => simp [resolve, h argument rfl]

theorem resolve_congr (h : argument.type = "literal") (h' : other.type = "literal")
    (hfirst : SameBound "start_date" "startDate" argument.value other.value)
    (hlast : SameBound "end_date" "endDate" argument.value other.value) :
    resolve (some argument) = resolve (some other) := by
  simp [resolve, h, h', hfirst.bound_eq, hlast.bound_eq]

theorem isPresent_of_date {d : Day} {date : String} (h : Date d date.toList) :
    (Json.str date).isPresent :=
  isPresent_of_supported (exists_normalize_iff.mp ⟨date, normalize_of_date h⟩)

/-- A literal range of two dates, each under either of its keys, is resolved to these dates. -/
theorem resolve_dates {firstKey lastKey : String} {d d' : Day}
    (hf : firstKey ∈ ["start_date", "startDate"]) (hl : lastKey ∈ ["end_date", "endDate"])
    (hd : Date d range.first.toList) (hd' : Date d' range.last.toList) :
    resolve (some ⟨"literal", [(firstKey, .str range.first), (lastKey, .str range.last)]⟩) =
      .ok range := by
  have hfirst : Alone "start_date" "startDate"
      [(firstKey, .str range.first), (lastKey, .str range.last)] (.str range.first) := by
    refine ⟨isPresent_of_date hd, ?_⟩
    simp only [List.mem_cons, List.not_mem_nil, or_false] at hf hl
    rcases hf with rfl | rfl <;> rcases hl with rfl | rfl <;> simp [Absent, get?]
  have hlast : Alone "end_date" "endDate"
      [(firstKey, .str range.first), (lastKey, .str range.last)] (.str range.last) := by
    refine ⟨isPresent_of_date hd', ?_⟩
    simp only [List.mem_cons, List.not_mem_nil, or_false] at hf hl
    rcases hf with rfl | rfl <;> rcases hl with rfl | rfl <;> simp [Absent, get?]
  rw [resolve_literal_eq_ok_iff rfl]
  exact ⟨(normalize_chosen_iff hfirst.chosen).mpr (.mk (.text (.date hd)) hd),
    (normalize_chosen_iff hlast.chosen).mpr (.mk (.text (.date hd')) hd')⟩

end Literals

/-- A date range is resolved as a whole. It is the last week exactly if no literal range is asked
for. A literal range is resolved by what stands under the keys of its bounds, each bound by its own
two keys, and the range of its dates is resolved to itself. -/
theorem resolve_whole (dates : Option DateArgument) :
    (resolve dates = .ok lastWeek ↔
      ∀ argument, dates = some argument → argument.type ≠ "literal") ∧
    ∀ argument, dates = some argument → argument.type = "literal" →
      (∃ first? last?,
        (∀ v?, Chosen "start_date" "startDate" argument.value v? ↔ v? = first?) ∧
        (∀ v?, Chosen "end_date" "endDate" argument.value v? ↔ v? = last?) ∧
        Resolves first? last? (resolve dates)) ∧
      (∀ other : DateArgument, other.type = "literal" →
        (SameBound "start_date" "startDate" argument.value other.value →
          SameBound "end_date" "endDate" argument.value other.value →
            resolve (some other) = resolve dates) ∧
        ∀ range range', resolve dates = .ok range → resolve (some other) = .ok range' →
          (SameBound "start_date" "startDate" argument.value other.value →
            range.first = range'.first) ∧
          (SameBound "end_date" "endDate" argument.value other.value →
            range.last = range'.last)) ∧
      ∀ range, resolve dates = .ok range →
        ∀ firstKey ∈ ["start_date", "startDate"], ∀ lastKey ∈ ["end_date", "endDate"],
          resolve (some ⟨"literal",
            [(firstKey, .str range.first), (lastKey, .str range.last)]⟩) = .ok range := by
  refine ⟨resolve_eq_lastWeek_iff, ?_⟩
  rintro argument rfl htype
  refine ⟨?_, ?_, ?_⟩
  · obtain ⟨first?, hfirst⟩ := exists_chosen "start_date" "startDate" argument.value
    obtain ⟨last?, hlast⟩ := exists_chosen "end_date" "endDate" argument.value
    exact ⟨first?, last?, hfirst.iff_eq, hlast.iff_eq, resolves_of_literal htype hfirst hlast⟩
  · intro other htype'
    refine ⟨fun hfirst hlast => (resolve_congr htype htype' hfirst hlast).symm, ?_⟩
    intro range range' hr hr'
    obtain ⟨hf, hl⟩ := (resolve_literal_eq_ok_iff htype).mp hr
    obtain ⟨hf', hl'⟩ := (resolve_literal_eq_ok_iff htype').mp hr'
    constructor
    · intro hsame
      rw [hsame.bound_eq, hf'] at hf
      exact (Except.ok.inj hf).symm
    · intro hsame
      rw [hsame.bound_eq, hl'] at hl
      exact (Except.ok.inj hl).symm
  · intro range hr firstKey hfk lastKey hlk
    obtain ⟨hf, hl⟩ := (resolve_literal_eq_ok_iff htype).mp hr
    obtain ⟨d, hd⟩ := exists_denotedBy_of_normalize hf
    obtain ⟨d', hd'⟩ := exists_denotedBy_of_normalize hl
    exact resolve_dates hfk hlk (date_of_normalize hd hf) (date_of_normalize hd' hl)

end DateRange

end ReportQuery
