import ReportQuery.Json

namespace ReportQuery

@[ext]
structure Day where
  year : Nat
  month : Nat
  day : Nat
  deriving DecidableEq

namespace Day

/-- A number written with a count of digits, each from `0` to `9`. -/
structure Number (count : Nat) (s : List Char) (n : Nat) : Prop where
  length : s.length = count
  isDigit : ∀ c ∈ s, c.isDigit
  value : Nat.ofDigitChars 10 s 0 = n

inductive Date (d : Day) : List Char → Prop where
  | mk {year month day : List Char} :
    Number 4 year d.year → Number 2 month d.month → Number 2 day d.day →
      Date d (year ++ '-' :: (month ++ '-' :: day))

/-- A date, a date with a time after it, or month, day and year with slashes between them, where the
month and the day may have one digit or two. -/
inductive Text (d : Day) : List Char → Prop where
  | date {s : List Char} : Date d s → Text d s
  | timed {date hour minute second : List Char} {h m s : Nat} :
    Date d date → Number 2 hour h → Number 2 minute m → Number 2 second s →
      Text d (date ++ 'T' :: (hour ++ ':' :: (minute ++ ':' :: second)))
  | slashed {month day year : List Char} {i j : Nat} :
    i ∈ [1, 2] → Number i month d.month → j ∈ [1, 2] → Number j day d.day →
      Number 4 year d.year → Text d (month ++ '/' :: (day ++ '/' :: year))

/-- The values that denote a day are texts, and the whole text denotes it. -/
inductive DenotedBy (d : Day) : Json → Prop where
  | text {s : String} : Text d s.toList → DenotedBy d (.str s)

end Day

end ReportQuery
