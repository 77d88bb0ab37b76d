import Mathlib.Algebra.Group.Nat.Defs
import ReportQuery.Day
import ReportQuery.Proofs.DateRange

namespace ReportQuery

namespace Day

section Numbers

variable {count : Nat} {s s' : List Char} {n : Nat}

theorem digit_le_nine {c : Char} (h : c.isDigit) : c.toNat - '0'.toNat ≤ 9 := by
  have hrange := Char.isDigit_iff_toNat.mp h
  simp only [Char.reduceToNat] at hrange ⊢
  omega

theorem digit_inj {c c' : Char} (h : c.isDigit) (h' : c'.isDigit)
    (heq : c.toNat - '0'.toNat = c'.toNat - '0'.toNat) : c = c' := by
  have hrange := Char.isDigit_iff_toNat.mp h
  have hrange' := Char.isDigit_iff_toNat.mp h'
  simp only [Char.reduceToNat] at hrange hrange' heq
  apply Char.toNat_inj.mp
  omega

theorem ofDigitChars_lt (h : ∀ c ∈ s, c.isDigit) : Nat.ofDigitChars 10 s 0 < 10 ^ s.length := by
  induction s with
  | nil => exact Nat.one_pos
  | cons c s ih =>
    rw [List.forall_mem_cons] at h
    have hrest : Nat.ofDigitChars 10 s 0 < 10 ^ s.length := ih h.2
    have hfirst : 10 ^ s.length * (c.toNat - '0'.toNat) ≤ 10 ^ s.length * 9 :=
      Nat.mul_le_mul_left _ (digit_le_nine h.1)
    rw [Nat.ofDigitChars_cons, Nat.mul_zero, Nat.zero_add, Nat.ofDigitChars_eq_ofDigitChars_zero,
      List.length_cons, Nat.pow_succ]
    omega

theorem mul_add_inj {b q q' r r' : Nat} (hr : r < b) (hr' : r' < b)
    (h : b * q + r = b * q' + r') : q = q' ∧ r = r' := by
  have hb : 0 < b := Nat.lt_of_le_of_lt (Nat.zero_le r) hr
  have hdiv := congrArg (· / b) h
  have hmod := congrArg (· % b) h
  simp only [Nat.mul_add_div hb, Nat.div_eq_of_lt hr, Nat.div_eq_of_lt hr', Nat.add_zero] at hdiv
  simp only [Nat.mul_add_mod, Nat.mod_eq_of_lt hr, Nat.mod_eq_of_lt hr'] at hmod
  exact ⟨hdiv, hmod⟩

theorem Number.text_unique (h : Number count s n) (h' : Number count s' n) : s = s' := by
  obtain ⟨rfl, hs, rfl⟩ := h
  obtain ⟨hlength, hs', hvalue⟩ := h'
  induction s generalizing s' with
  | nil => exact (List.eq_nil_of_length_eq_zero hlength).symm
  | cons c s ih =>
    cases s' with
    | nil => cases hlength
    | cons c' s' =>
      rw [List.forall_mem_cons] at hs hs'
      rw [List.length_cons, List.length_cons, Nat.succ_inj] at hlength
      have hlt : Nat.ofDigitChars 10 s 0 < 10 ^ s.length := ofDigitChars_lt hs.2
      have hlt' : Nat.ofDigitChars 10 s' 0 < 10 ^ s.length := hlength ▸ ofDigitChars_lt hs'.2
      simp only [Nat.ofDigitChars_cons, Nat.mul_zero, Nat.zero_add] at hvalue
      rw [Nat.ofDigitChars_eq_ofDigitChars_zero, Nat.ofDigitChars_eq_ofDigitChars_zero (l := s),
        hlength] at hvalue
      obtain ⟨hfirst, hrest⟩ := mul_add_inj hlt' hlt hvalue
      rw [digit_inj hs'.1 hs.1 hfirst, ih hs.2 hlength hs'.2 hrest]

theorem Number.unique {count' n' : Nat} (h : Number count s n) (h' : Number count' s n') :
    n = n' :=
  h.value.symm.trans h'.value

theorem exists_number_iff :
    (∃ n, Number count s n) ↔ s.length = count ∧ ∀ c ∈ s, c.isDigit := by
  constructor
  · intro h
    obtain ⟨n, h⟩ := h
    exact ⟨h.length, h.isDigit⟩
  · intro h
    exact ⟨_, h.1, h.2, rfl⟩

theorem Number.zero_cons (h : Number count s n) : Number (count + 1) ('0' :: s) n := by
  obtain ⟨rfl, hs, rfl⟩ := h
  have hzero : ∀ c ∈ '0' :: s, c.isDigit := List.forall_mem_cons.mpr ⟨rfl, hs⟩
  exact ⟨rfl, hzero, Nat.ofDigitChars_cons⟩

theorem Number.exists_two (h : Number count s n) (hcount : count ∈ [1, 2]) : ∃ t, Number 2 t n := by
  simp only [List.mem_cons, List.not_mem_nil, or_false] at hcount
  rcases hcount with rfl | rfl
  · exact ⟨_, h.zero_cons⟩
  · exact ⟨_, h⟩

end Numbers

section Dates

variable {d d' : Day} {s s' : List Char}

theorem date_iff :
    Date d s ↔ ∃ year month day, s = year ++ '-' :: (month ++ '-' :: day) ∧
      Number 4 year d.year ∧ Number 2 month d.month ∧ Number 2 day d.day := by
  constructor
  · intro h
    cases h with
    | mk hy hm hd => exact ⟨_, _, _, rfl, hy, hm, hd⟩
  · intro h
    obtain ⟨year, month, day, rfl, hy, hm, hd⟩ := h
    exact .mk hy hm hd

theorem Date.length (h : Date d s) : s.length = 10 := by
  cases h with
  | mk hy hm hd => simp [hy.length, hm.length, hd.length]

theorem Date.text_unique (h : Date d s) (h' : Date d s') : s = s' := by
  cases h with
  | mk hy hm hd =>
    cases h' with
    | mk hy' hm' hd' => rw [hy.text_unique hy', hm.text_unique hm', hd.text_unique hd']

theorem Date.day_unique (h : Date d s) (h' : Date d' s) : d = d' := by
  obtain ⟨year, month, day, rfl, hy, hm, hd⟩ := date_iff.mp h
  obtain ⟨year', month', day', hs, hy', hm', hd'⟩ := date_iff.mp h'
  obtain ⟨hyear, hafter⟩ := List.append_inj hs (hy.length.trans hy'.length.symm)
  obtain ⟨-, hrest⟩ := List.cons.inj hafter
  obtain ⟨hmonth, hlast⟩ := List.append_inj hrest (hm.length.trans hm'.length.symm)
  obtain ⟨-, hday⟩ := List.cons.inj hlast
  have hyears : d.year = d'.year := hy.unique (hyear ▸ hy')
  have hmonths : d.month = d'.month := hm.unique (hmonth ▸ hm')
  have hdays : d.day = d'.day := hd.unique (hday ▸ hd')
  exact Day.ext hyears hmonths hdays

end Dates

end Day

namespace DateRange

open Day

section Shapes

variable {shape s : List Char} {mark : Char}

theorem fits_digits_iff (count : Nat) :
    fits (List.replicate count '#') s ↔ ∃ n, Number count s n := by
  rw [exists_number_iff]
  induction count generalizing s with
  | zero => simp +contextual [fits_nil]
  | succ count ih =>
    cases s with
    | nil => simp [List.replicate_succ, fits]
    | cons c s =>
      rw [List.replicate_succ, fits_cons_cons, if_pos rfl, ih, List.forall_mem_cons,
        List.length_cons, Nat.succ_inj]
      exact and_left_comm

theorem fits_digits_mark_iff {count : Nat} (h : mark ≠ '#') :
    fits (List.replicate count '#' ++ mark :: shape) s ↔
      ∃ digits n rest, s = digits ++ mark :: rest ∧ Number count digits n ∧ fits shape rest := by
  simp only [fits_append, fits_digits_iff, fits_mark h]
  constructor
  · intro hs
    obtain ⟨digits, _, rfl, ⟨n, hn⟩, rest, rfl, hrest⟩ := hs
    exact ⟨digits, n, rest, rfl, hn, hrest⟩
  · intro hs
    obtain ⟨digits, n, rest, rfl, hn, hrest⟩ := hs
    exact ⟨digits, _, rfl, ⟨n, hn⟩, rest, rfl, hrest⟩

theorem fits_dateShape_iff : fits dateShape s ↔ ∃ d, Date d s := by
  have hshape : dateShape = List.replicate 4 '#' ++
      '-' :: (List.replicate 2 '#' ++ '-' :: List.replicate 2 '#') := rfl
  have hmark : '-' ≠ '#' := by decide
  simp only [hshape, fits_digits_mark_iff hmark, fits_digits_iff, date_iff]
  constructor
  · intro h
    obtain ⟨year, y, _, rfl, hy, month, m, day, rfl, hm, d, hd⟩ := h
    exact ⟨⟨y, m, d⟩, year, month, day, rfl, hy, hm, hd⟩
  · intro h
    obtain ⟨d, year, month, day, rfl, hy, hm, hd⟩ := h
    exact ⟨year, _, _, rfl, hy, month, _, day, rfl, hm, _, hd⟩

theorem fits_timeShape_iff :
    fits timeShape s ↔ ∃ d date hour minute second h m n,
      s = date ++ 'T' :: (hour ++ ':' :: (minute ++ ':' :: second)) ∧
        Date d date ∧ Number 2 hour h ∧ Number 2 minute m ∧ Number 2 second n := by
  have hshape : timeShape = dateShape ++ 'T' :: (List.replicate 2 '#' ++
      ':' :: (List.replicate 2 '#' ++ ':' :: List.replicate 2 '#')) := rfl
  have hmark : ':' ≠ '#' := by decide
  have htime : 'T' ≠ '#' := by decide
  simp only [hshape, fits_append, fits_mark htime, fits_digits_mark_iff hmark, fits_digits_iff,
    fits_dateShape_iff]
  constructor
  · intro hs
    obtain ⟨date, _, rfl, ⟨d, hdate⟩, _, rfl, hour, h, _, rfl, hh, minute, m, second, rfl, hm,
      n, hn⟩ := hs
    exact ⟨d, date, hour, minute, second, h, m, n, rfl, hdate, hh, hm, hn⟩
  · intro hs
    obtain ⟨d, date, hour, minute, second, h, m, n, rfl, hdate, hh, hm, hn⟩ := hs
    exact ⟨date, _, rfl, ⟨d, hdate⟩, _, rfl, hour, h, _, rfl, hh, minute, m, second, rfl, hm, n, hn⟩

end Shapes

section Texts

variable {d d' : Day} {s t date : List Char} {value : Json} {text : String}

theorem twoDigits?_eq_some_iff :
    twoDigits? s = some t ↔ ∃ i ∈ [1, 2], ∃ n, Number i s n ∧ Number 2 t n := by
  have hone : fits ['#'] s ↔ ∃ n, Number 1 s n := fits_digits_iff 1
  have htwo : fits ['#', '#'] s ↔ ∃ n, Number 2 s n := fits_digits_iff 2
  constructor
  · intro h
    rw [twoDigits?] at h
    split at h
    · next hfits =>
      obtain ⟨n, hn⟩ := hone.mp hfits
      cases h
      exact ⟨1, by simp, n, hn, hn.zero_cons⟩
    · split at h
      · next hfits =>
        obtain ⟨n, hn⟩ := htwo.mp hfits
        cases h
        exact ⟨2, by simp, n, hn, hn⟩
      · cases h
  · intro h
    obtain ⟨i, hi, n, hs, ht⟩ := h
    simp only [List.mem_cons, List.not_mem_nil, or_false] at hi
    rcases hi with rfl | rfl
    · rw [twoDigits?, if_pos (hone.mpr ⟨n, hs⟩), hs.zero_cons.text_unique ht]
    · have hnot : ¬ fits ['#'] s := by
        rw [hone]
        rintro ⟨m, hm⟩
        cases hm.length.symm.trans hs.length
      rw [twoDigits?, if_neg hnot, if_pos (htwo.mpr ⟨n, hs⟩), hs.text_unique ht]

theorem normalizeChars?_of_slash (h : '/' ∈ s) : normalizeChars? s = slashDate? s := by
  have hdate : ¬ fits dateShape s := fun hs => slash_not_mem hs (by decide) h
  have htime : ¬ fits timeShape s := fun hs => slash_not_mem hs (by decide) h
  rw [normalizeChars?, if_neg hdate, if_neg htime]

theorem exists_date_of_text (h : Text d s) :
    ∃ date, normalizeChars? s = some date ∧ Date d date := by
  cases h with
  | date hdate =>
    have hfits : fits dateShape s := fits_dateShape_iff.mpr ⟨d, hdate⟩
    exact ⟨s, if_pos hfits, hdate⟩
  | @timed date hour minute second h m n hdate hh hm hn =>
    have hfits : fits timeShape (date ++ 'T' :: (hour ++ ':' :: (minute ++ ':' :: second))) :=
      fits_timeShape_iff.mpr ⟨d, date, hour, minute, second, h, m, n, rfl, hdate, hh, hm, hn⟩
    have hnot : ¬ fits dateShape (date ++ 'T' :: (hour ++ ':' :: (minute ++ ':' :: second))) := by
      intro hs
      cases (length_of_fits hs).symm.trans (length_of_fits hfits)
    refine ⟨date, ?_, hdate⟩
    rw [normalizeChars?, if_neg hnot, if_pos hfits, List.take_left' hdate.length]
  | @slashed month day year i j hi hm hj hd hy =>
    obtain ⟨twoMonth, hmonth⟩ := hm.exists_two hi
    obtain ⟨twoDay, hday⟩ := hd.exists_two hj
    refine ⟨year ++ '-' :: twoMonth ++ '-' :: twoDay, ?_, ?_⟩
    · rw [normalizeChars?_of_slash (by simp)]
      apply slashDate?_eq_some_iff.mpr
      exact ⟨month, day, year, twoMonth, twoDay, rfl,
        twoDigits?_eq_some_iff.mpr ⟨i, hi, _, hm, hmonth⟩,
        twoDigits?_eq_some_iff.mpr ⟨j, hj, _, hd, hday⟩, (fits_digits_iff 4).mpr ⟨_, hy⟩, rfl⟩
    · rw [List.append_assoc]
      exact .mk hy hmonth hday

theorem exists_text_of_normalizeChars? (h : normalizeChars? s = some date) : ∃ d, Text d s := by
  rw [normalizeChars?] at h
  split at h
  · next hfits =>
    obtain ⟨d, hdate⟩ := fits_dateShape_iff.mp hfits
    exact ⟨d, .date hdate⟩
  · split at h
    · next hfits =>
      obtain ⟨d, date, hour, minute, second, h, m, n, rfl, hdate, hh, hm, hn⟩ :=
        fits_timeShape_iff.mp hfits
      exact ⟨d, .timed hdate hh hm hn⟩
    · obtain ⟨month, day, year, twoMonth, twoDay, rfl, hmonth, hday, hyear, -⟩ :=
        slashDate?_eq_some_iff.mp h
      obtain ⟨i, hi, m, hm, -⟩ := twoDigits?_eq_some_iff.mp hmonth
      obtain ⟨j, hj, n, hn, -⟩ := twoDigits?_eq_some_iff.mp hday
      obtain ⟨y, hy⟩ := (fits_digits_iff 4).mp hyear
      exact ⟨⟨y, m, n⟩, .slashed hi hm hj hn hy⟩

theorem exists_normalize_of_denotedBy (h : d.DenotedBy value) :
    ∃ date, normalize value = .ok date ∧ Date d date.toList := by
  cases h with
  | text h =>
    obtain ⟨date, hs, hdate⟩ := exists_date_of_text h
    refine ⟨String.ofList date, ?_, ?_⟩
    · rw [normalize, hs]
    · rwa [String.toList_ofList]

theorem exists_denotedBy_of_normalize (h : normalize value = .ok text) :
    ∃ d : Day, d.DenotedBy value := by
  cases value with
  | str s =>
    cases hs : normalizeChars? s.toList with
    | some date =>
      obtain ⟨d, hd⟩ := exists_text_of_normalizeChars? hs
      exact ⟨d, .text hd⟩
    | none =>
      rw [normalize, hs] at h
      cases h
  | _ => cases h

theorem value_of_normalize_error {e : UnsupportedDate} (h : normalize value = .error e) :
    e = ⟨value⟩ := by
  cases value with
  | str s =>
    cases hs : normalizeChars? s.toList with
    | some date =>
      rw [normalize, hs] at h
      cases h
    | none =>
      rw [normalize, hs] at h
      exact (Except.error.inj h).symm
  | _ => exact (Except.error.inj h).symm

theorem date_of_normalize (hd : d.DenotedBy value) (h : normalize value = .ok text) :
    Date d text.toList := by
  obtain ⟨date, hdate, hd⟩ := exists_normalize_of_denotedBy hd
  rw [h] at hdate
  cases hdate
  exact hd

/-- No value denotes two days: both would have the one normal form for their date. -/
theorem day_unique_of_denotedBy (h : d.DenotedBy value) (h' : d'.DenotedBy value) : d = d' := by
  obtain ⟨date, hdate, hd⟩ := exists_normalize_of_denotedBy h
  exact hd.day_unique (date_of_normalize h' hdate)

theorem normalize_of_date (h : Date d text.toList) : normalize (.str text) = .ok text := by
  obtain ⟨date, hdate, hd⟩ := exists_normalize_of_denotedBy (.text (.date h))
  rw [hdate, ← String.toList_inj.mp (hd.text_unique h)]

end Texts

/-- What is understood of a literal is the day that it denotes: there is a normal form exactly if
there is a day, the normal form is the date of that day and its own normal form, and two literals
have one normal form exactly if they denote one day. -/
theorem normalize_keeps_day (value : Json) :
    ((∃ date, normalize value = .ok date) ↔ ∃ d : Day, d.DenotedBy value) ∧
    ((¬ ∃ d : Day, d.DenotedBy value) → normalize value = .error ⟨value⟩) ∧
    (∀ date, normalize value = .ok date → normalize (.str date) = .ok date ∧
      ∃ d : Day, Date d date.toList ∧ ∀ d' : Day, d'.DenotedBy value ↔ d' = d) ∧
    ∀ other date date', normalize value = .ok date → normalize other = .ok date' →
      (date = date' ↔ ∃ d : Day, d.DenotedBy value ∧ d.DenotedBy other) := by
  have hsome : (∃ date, normalize value = .ok date) ↔ ∃ d : Day, d.DenotedBy value := by
    constructor
    · intro h
      obtain ⟨date, hdate⟩ := h
      exact exists_denotedBy_of_normalize hdate
    · intro h
      obtain ⟨d, hd⟩ := h
      obtain ⟨date, hdate, -⟩ := exists_normalize_of_denotedBy hd
      exact ⟨date, hdate⟩
  refine ⟨hsome, ?_, ?_, ?_⟩
  · intro hnone
    cases h : normalize value with
    | ok date => exact absurd (hsome.mp ⟨date, h⟩) hnone
    | error e => rw [value_of_normalize_error h]
  · intro date hdate
    obtain ⟨d, hd⟩ := exists_denotedBy_of_normalize hdate
    have hdated : Date d date.toList := date_of_normalize hd hdate
    refine ⟨normalize_of_date hdated, d, hdated, ?_⟩
    intro d'
    constructor
    · intro hd'
      exact day_unique_of_denotedBy hd' hd
    · rintro rfl
      exact hd
  · intro other date date' hdate hdate'
    obtain ⟨d, hd⟩ := exists_denotedBy_of_normalize hdate
    obtain ⟨d', hd'⟩ := exists_denotedBy_of_normalize hdate'
    constructor
    · rintro rfl
      have hday : d = d' :=
        (date_of_normalize hd hdate).day_unique (date_of_normalize hd' hdate')
      exact ⟨d, hd, hday ▸ hd'⟩
    · intro h
      obtain ⟨day, hday, hday'⟩ := h
      apply String.toList_inj.mp
      exact (date_of_normalize hday hdate).text_unique (date_of_normalize hday' hdate')

example : normalize (.str "3/5/2024") = .ok "2024-03-05" := by rfl

example : normalize (.str "2024-03-05\n") = .error ⟨.str "2024-03-05\n"⟩ := by rfl

end DateRange

end ReportQuery
