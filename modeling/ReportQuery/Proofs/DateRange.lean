import Mathlib.Data.List.TakeDrop
import Mathlib.Data.List.TakeWhile
import ReportQuery.Attempts
import ReportQuery.Query.Supported

namespace ReportQuery

namespace DateRange

section Shapes

variable {shape more s : List Char} {p c : Char}

theorem fits_nil : fits [] s ↔ s = [] := by
  cases s with
  | nil => exact iff_of_true rfl rfl
  | cons => exact iff_of_false Bool.false_ne_true (List.cons_ne_nil _ _)

theorem fits_cons_cons :
    fits (p :: shape) (c :: s) ↔ (if p = '#' then c.isDigit else p == c) ∧ fits shape s := by
  rw [fits, Bool.and_eq_true]

theorem fits_append :
    fits (shape ++ more) s ↔
      ∃ front rest, s = front ++ rest ∧ fits shape front ∧ fits more rest := by
  induction shape generalizing s with
  | nil =>
    constructor
    · intro h
      exact ⟨[], s, rfl, fits_nil.mpr rfl, h⟩
    · intro h
      obtain ⟨front, rest, rfl, hf, hr⟩ := h
      rw [fits_nil.mp hf]
      exact hr
  | cons p shape ih =>
    cases s with
    | nil => simp [fits]
    | cons c s =>
      rw [List.cons_append, fits_cons_cons, ih]
      constructor
      · intro h
        obtain ⟨hc, front, rest, rfl, hf, hr⟩ := h
        exact ⟨c :: front, rest, rfl, fits_cons_cons.mpr ⟨hc, hf⟩, hr⟩
      · intro h
        obtain ⟨front, rest, hs, hf, hr⟩ := h
        cases front with
        | nil => cases hf
        | cons d front =>
          obtain ⟨rfl, rfl⟩ := List.cons.inj hs
          obtain ⟨hc, hf⟩ := fits_cons_cons.mp hf
          exact ⟨hc, front, rest, rfl, hf, hr⟩

theorem fits_mark (h : p ≠ '#') :
    fits (p :: shape) s ↔ ∃ rest, s = p :: rest ∧ fits shape rest := by
  cases s with
  | nil => simp [fits]
  | cons c s =>
    rw [fits_cons_cons, if_neg h, beq_iff_eq]
    constructor
    · intro h
      obtain ⟨rfl, h⟩ := h
      exact ⟨s, rfl, h⟩
    · intro h
      obtain ⟨rest, hs, h⟩ := h
      cases hs
      exact ⟨rfl, h⟩

theorem fits_slash : fits ('/' :: shape) s ↔ ∃ rest, s = '/' :: rest ∧ fits shape rest :=
  fits_mark (by decide)

theorem length_of_fits (h : fits shape s) : s.length = shape.length := by
  induction shape generalizing s with
  | nil => rw [fits_nil.mp h]
  | cons p shape ih =>
    cases s with
    | nil => cases h
    | cons c s => rw [List.length_cons, List.length_cons, ih (fits_cons_cons.mp h).2]

theorem slash_not_mem (h : fits shape s) (hs : '/' ∉ shape) : '/' ∉ s := by
  induction shape generalizing s with
  | nil => simp [fits_nil.mp h]
  | cons p shape ih =>
    cases s with
    | nil => exact List.not_mem_nil
    | cons c s =>
      obtain ⟨hc, h⟩ := fits_cons_cons.mp h
      rw [List.mem_cons, not_or] at hs ⊢
      refine ⟨?_, ih h hs.2⟩
      rintro rfl
      split at hc
      · exact absurd hc (by decide)
      · exact hs.1 (beq_iff_eq.mp hc).symm

end Shapes

section Slashes

variable {s front rest month day year : List Char}

theorem span_slash_iff :
    s.span (· ≠ '/') = (front, '/' :: rest) ↔ s = front ++ '/' :: rest ∧ '/' ∉ front := by
  rw [List.span_eq_takeWhile_dropWhile]
  constructor
  · intro h
    obtain ⟨rfl, hr⟩ := Prod.mk.inj h
    refine ⟨?_, ?_⟩
    · rw [← hr, List.takeWhile_append_dropWhile]
    · intro hm
      have hne := List.mem_takeWhile_imp hm
      simp at hne
  · intro h
    obtain ⟨rfl, hf⟩ := h
    have hinside : ∀ c ∈ front, decide (c ≠ '/') = true := by
      intro c hc
      rw [decide_eq_true_iff]
      rintro rfl
      exact hf hc
    rw [List.takeWhile_append_of_pos hinside, List.dropWhile_append_of_pos hinside]
    simp

def shortShapes : List (List Char) := [['#'], ['#', '#']]

theorem exists_twoDigits_iff :
    (∃ digits, twoDigits? s = some digits) ↔ ∃ shape ∈ shortShapes, fits shape s := by
  rw [twoDigits?]
  by_cases hone : fits ['#'] s
  · simp [shortShapes, hone]
  · by_cases htwo : fits ['#', '#'] s
    · simp [shortShapes, hone, htwo]
    · simp [shortShapes, hone, htwo]

theorem slash_not_mem_of_twoDigits {digits : List Char} (h : twoDigits? s = some digits) :
    '/' ∉ s := by
  obtain ⟨shape, hshape, hs⟩ := exists_twoDigits_iff.mp ⟨digits, h⟩
  have hslash : ∀ shape ∈ shortShapes, '/' ∉ shape := by decide
  exact slash_not_mem hs (hslash shape hshape)

theorem slashDate?_eq_some_iff {date : List Char} :
    slashDate? s = some date ↔
      ∃ month day year twoMonth twoDay, s = month ++ '/' :: (day ++ '/' :: year) ∧
        twoDigits? month = some twoMonth ∧ twoDigits? day = some twoDay ∧
        fits ['#', '#', '#', '#'] year ∧ year ++ '-' :: twoMonth ++ '-' :: twoDay = date := by
  constructor
  · intro h
    rw [slashDate?] at h
    split at h
    · next month afterMonth hmonth =>
      split at h
      · next day year hday =>
        split at h
        · next twoMonth twoDay hm hd =>
          split at h
          · next hy =>
            obtain ⟨rfl, -⟩ := span_slash_iff.mp hmonth
            obtain ⟨rfl, -⟩ := span_slash_iff.mp hday
            exact ⟨month, day, year, twoMonth, twoDay, rfl, hm, hd, hy, Option.some.inj h⟩
          · cases h
        · cases h
      · cases h
    · cases h
  · intro h
    obtain ⟨month, day, year, twoMonth, twoDay, rfl, hm, hd, hy, rfl⟩ := h
    have hmonth : (month ++ '/' :: (day ++ '/' :: year)).span (· ≠ '/') =
        (month, '/' :: (day ++ '/' :: year)) :=
      span_slash_iff.mpr ⟨rfl, slash_not_mem_of_twoDigits hm⟩
    have hday : (day ++ '/' :: year).span (· ≠ '/') = (day, '/' :: year) :=
      span_slash_iff.mpr ⟨rfl, slash_not_mem_of_twoDigits hd⟩
    simp only [slashDate?, hmonth, hday, hm, hd, hy, if_true]

end Slashes

def slashShape (month day : List Char) : List Char :=
  month ++ '/' :: (day ++ '/' :: ['#', '#', '#', '#'])

theorem fits_slashShape {s month day : List Char} :
    fits (slashShape month day) s ↔
      ∃ m d year, s = m ++ '/' :: (d ++ '/' :: year) ∧ fits month m ∧ fits day d ∧
        fits ['#', '#', '#', '#'] year := by
  rw [slashShape, fits_append]
  constructor
  · intro h
    obtain ⟨m, afterMonth, rfl, hm, h⟩ := h
    obtain ⟨afterSlash, rfl, h⟩ := fits_slash.mp h
    obtain ⟨d, afterDay, rfl, hd, h⟩ := fits_append.mp h
    obtain ⟨year, rfl, hy⟩ := fits_slash.mp h
    exact ⟨m, d, year, rfl, hm, hd, hy⟩
  · intro h
    obtain ⟨m, d, year, rfl, hm, hd, hy⟩ := h
    have hday : fits (day ++ '/' :: ['#', '#', '#', '#']) (d ++ '/' :: year) :=
      fits_append.mpr ⟨d, _, rfl, hd, fits_slash.mpr ⟨year, rfl, hy⟩⟩
    exact ⟨m, _, rfl, hm, fits_slash.mpr ⟨_, rfl, hday⟩⟩

theorem exists_slashShape_iff {s : List Char} :
    (∃ shape ∈ slashShapes, fits shape.toList s) ↔
      ∃ month ∈ shortShapes, ∃ day ∈ shortShapes, fits (slashShape month day) s := by
  simp [slashShapes, shortShapes, slashShape, or_assoc]

/-- A text has a date with slashes exactly if it has one of the four shapes of such dates. -/
theorem exists_slashDate_iff {s : List Char} :
    (∃ date, slashDate? s = some date) ↔ ∃ shape ∈ slashShapes, fits shape.toList s := by
  rw [exists_slashShape_iff]
  simp only [slashDate?_eq_some_iff, fits_slashShape]
  constructor
  · intro h
    obtain ⟨date, m, d, year, twoMonth, twoDay, hs, hm, hd, hy, -⟩ := h
    obtain ⟨month, hmonth, hm⟩ := exists_twoDigits_iff.mp ⟨twoMonth, hm⟩
    obtain ⟨day, hday, hd⟩ := exists_twoDigits_iff.mp ⟨twoDay, hd⟩
    exact ⟨month, hmonth, day, hday, m, d, year, hs, hm, hd, hy⟩
  · intro h
    obtain ⟨month, hmonth, day, hday, m, d, year, hs, hm, hd, hy⟩ := h
    obtain ⟨twoMonth, hm⟩ := exists_twoDigits_iff.mpr ⟨month, hmonth, hm⟩
    obtain ⟨twoDay, hd⟩ := exists_twoDigits_iff.mpr ⟨day, hday, hd⟩
    exact ⟨_, m, d, year, twoMonth, twoDay, hs, hm, hd, hy, rfl⟩

/-- The dates that have a normal form are the supported ones. -/
theorem exists_normalize_iff {value : Json} :
    (∃ date, normalize value = .ok date) ↔ SupportedDate value := by
  cases value with
  | str s =>
    have hchars : (∃ date, normalize (.str s) = .ok date) ↔
        ∃ date, normalizeChars? s.toList = some date := by
      rw [normalize]
      cases normalizeChars? s.toList with
      | none => simp
      | some date => simp
    rw [hchars, normalizeChars?]
    constructor
    · intro h
      split at h
      · next hdate => exact .plain hdate
      · split at h
        · next htime => exact .timed htime
        · obtain ⟨shape, hshape, hs⟩ := exists_slashDate_iff.mp h
          exact .slashed hshape hs
    · intro h
      cases h with
      | plain hdate =>
        change fits dateShape s.toList = true at hdate
        simp [hdate]
      | timed htime =>
        change fits timeShape s.toList = true at htime
        by_cases hdate : fits dateShape s.toList
        · simp [hdate]
        · simp [hdate, htime]
      | slashed hshape hs =>
        split
        · exact ⟨_, rfl⟩
        · split
          · exact ⟨_, rfl⟩
          · exact exists_slashDate_iff.mpr ⟨_, hshape, hs⟩
  | _ => exact iff_of_false (fun h => nomatch h) (fun h => nomatch h)

theorem isPresent_of_supported {value : Json} (h : SupportedDate value) : value.isPresent := by
  have hne {shape : List Char} {s : String} (hs : fits shape s.toList) (hshape : shape ≠ []) :
      s ≠ "" := by
    rintro rfl
    cases shape with
    | nil => exact hshape rfl
    | cons p shape => cases hs
  cases h with
  | plain h => simp [Json.isPresent, hne h (by decide)]
  | timed h => simp [Json.isPresent, hne h (by decide)]
  | slashed hshape h =>
    have hshapes : ∀ shape ∈ slashShapes, shape.toList ≠ [] := by decide
    simp [Json.isPresent, hne h (hshapes _ hshape)]

section Bounds

variable {first second : String} {value : Entries Json} {v : Json}

theorem bound_eq :
    bound first second value =
      (((Entries.get? first value).filter Json.isPresent).or
        ((Entries.get? second value).filter Json.isPresent)).getD .null := by
  simp only [bound]
  cases Entries.get? first value with
  | none =>
    cases Entries.get? second value with
    | none => rfl
    | some w => rfl
  | some v =>
    cases Entries.get? second value with
    | none => rfl
    | some w => rfl

theorem bound_of_present (h : Entries.get? first value = some v) (hv : v.isPresent) :
    bound first second value = v := by
  have hfirst : (Entries.get? first value).filter Json.isPresent = some v :=
    Option.filter_eq_some_iff.mpr ⟨h, hv⟩
  rw [bound_eq, hfirst, Option.some_or, Option.getD_some]

theorem bound_of_absent (h : ∀ w, Entries.get? first value = some w → w.isPresent = false) :
    bound first second value = ((Entries.get? second value).filter Json.isPresent).getD .null := by
  have hfirst : (Entries.get? first value).filter Json.isPresent = none := by
    rw [Option.filter_eq_none_iff]
    intro w hg
    rw [h w hg]
    exact Bool.false_ne_true
  rw [bound_eq, hfirst, Option.none_or]

/-- A bound has a normal form exactly if the first of its keys with a value that is present has a
supported date. -/
theorem exists_normalize_bound_iff :
    (∃ date, normalize (bound first second value) = .ok date) ↔
      SupportedBound first second value := by
  by_cases hfirst : ∃ v, Entries.get? first value = some v ∧ v.isPresent
  · obtain ⟨v, hg, hv⟩ := hfirst
    rw [bound_of_present hg hv, exists_normalize_iff]
    constructor
    · intro h
      exact ⟨v, h, .inl hg⟩
    · intro h
      obtain ⟨w, hw, hgw | ⟨habsent, -⟩⟩ := h
      · rw [hg, Option.some.injEq] at hgw
        exact hgw ▸ hw
      · rw [habsent v hg] at hv
        cases hv
  · have habsent : ∀ w, Entries.get? first value = some w → w.isPresent = false := by
      intro w hg
      rw [← Bool.not_eq_true]
      intro hw
      exact hfirst ⟨w, hg, hw⟩
    rw [bound_of_absent habsent, exists_normalize_iff]
    constructor
    · intro h
      have hpresent := isPresent_of_supported h
      cases hs : (Entries.get? second value).filter Json.isPresent with
      | none =>
        rw [hs] at hpresent
        cases hpresent
      | some w =>
        rw [hs] at h
        exact ⟨w, h, .inr ⟨habsent, (Option.filter_eq_some_iff.mp hs).1⟩⟩
    · intro h
      obtain ⟨w, hw, hg | ⟨-, hg⟩⟩ := h
      · exact absurd ⟨w, hg, isPresent_of_supported hw⟩ hfirst
      · have hs : (Entries.get? second value).filter Json.isPresent = some w :=
          Option.filter_eq_some_iff.mpr ⟨hg, isPresent_of_supported hw⟩
        rw [hs]
        exact hw

end Bounds

theorem resolve_literal_eq_ok_iff {argument : DateArgument} {range : DateRange}
    (h : argument.type = "literal") :
    resolve (some argument) = .ok range ↔
      normalize (bound "start_date" "startDate" argument.value) = .ok range.first ∧
        normalize (bound "end_date" "endDate" argument.value) = .ok range.last := by
  simp only [resolve, h, ne_eq, not_true_eq_false, if_false, bind_eq_ok_iff]
  constructor
  · intro hr
    obtain ⟨first, hf, last, hl, hr⟩ := hr
    cases hr
    exact ⟨hf, hl⟩
  · intro hr
    exact ⟨_, hr.1, _, hr.2, rfl⟩

/-- The dates that are resolved to a range are the supported ones. -/
theorem exists_resolve_iff {dates : Option DateArgument} :
    (∃ range, resolve dates = .ok range) ↔ SupportedDates dates := by
  cases dates with
  | none => exact iff_of_true ⟨_, rfl⟩ trivial
  | some argument =>
    by_cases htype : argument.type = "literal"
    · simp only [resolve_literal_eq_ok_iff htype, SupportedDates, htype, ne_eq, not_true_eq_false,
        false_or, ← exists_normalize_bound_iff]
      constructor
      · intro h
        obtain ⟨range, hf, hl⟩ := h
        exact ⟨⟨_, hf⟩, ⟨_, hl⟩⟩
      · intro h
        obtain ⟨⟨first, hf⟩, ⟨last, hl⟩⟩ := h
        exact ⟨⟨first, last⟩, hf, hl⟩
    · have hweek : resolve (some argument) = .ok lastWeek := by simp [resolve, htype]
      exact iff_of_true ⟨_, hweek⟩ (.inl htype)

end DateRange

end ReportQuery
