import ReportQuery.Json.Display

namespace ReportQuery

structure DateRange where
  first : String
  last : String
  deriving DecidableEq

structure DateArgument where
  type : String
  value : Entries Json

structure UnsupportedDate where
  value : Json

namespace UnsupportedDate

def message (e : UnsupportedDate) : String := "Unsupported date format: " ++ e.value.display

def details (e : UnsupportedDate) : Entries Json :=
  [("value", e.value),
    ("supported_formats", .strings ["YYYY-MM-DD", "YYYY-MM-DDTHH:MM:SS", "MM/DD/YYYY"])]

end UnsupportedDate

namespace DateRange

def lastWeek : DateRange := ⟨"7daysAgo", "today"⟩

def toJson (r : DateRange) : Json :=
  .obj [("start_date", .str r.first), ("end_date", .str r.last)]

/-- Whether a text has a shape, in which `#` stands for one of the digits `0` to `9`. -/
def fits : (shape s : List Char) → Bool
  | [], [] => true
  | p :: shape, c :: s => (if p = '#' then c.isDigit else p == c) && fits shape s
  | _, _ => false

def dateShape : List Char := "####-##-##".toList

def timeShape : List Char := "####-##-##T##:##:##".toList

/-- A month or a day, of one digit or two, as two digits. -/
def twoDigits? (s : List Char) : Option (List Char) :=
  if fits ['#'] s then some ('0' :: s)
  else if fits ['#', '#'] s then some s
  else none

def slashDate? (s : List Char) : Option (List Char) :=
  match s.span (· ≠ '/') with
  | (month, '/' :: rest) =>
    match rest.span (· ≠ '/') with
    | (day, '/' :: year) =>
      match twoDigits? month, twoDigits? day with
      | some month, some day =>
        if fits ['#', '#', '#', '#'] year then some (year ++ '-' :: month ++ '-' :: day) else none
      | _, _ => none
    | _ => none
  | _ => none

def normalizeChars? (s : List Char) : Option (List Char) :=
  if fits dateShape s then some s
  else if fits timeShape s then some (s.take 10)
  else slashDate? s

def normalize (value : Json) : Except UnsupportedDate String :=
  match value with
  | .str s =>
    match normalizeChars? s.toList with
    | some date => .ok (String.ofList date)
    | none => .error ⟨value⟩
  | _ => .error ⟨value⟩

/-- The first of two members that is present, else null. -/
def bound (first second : String) (value : Entries Json) : Json :=
  let present (key : String) : Option Json :=
    match Entries.get? key value with
    | some v => if v.isPresent then some v else none
    | none => none
  ((present first).or (present second)).getD .null

/-- The range that a query asks for. Of two bad bounds the first is reported. -/
def resolve : Option DateArgument → Except UnsupportedDate DateRange
  | none => .ok lastWeek
  | some argument =>
    if argument.type ≠ "literal" then .ok lastWeek
    else do
      let first ← normalize (bound "start_date" "startDate" argument.value)
      let last ← normalize (bound "end_date" "endDate" argument.value)
      pure ⟨first, last⟩

end DateRange

end ReportQuery
