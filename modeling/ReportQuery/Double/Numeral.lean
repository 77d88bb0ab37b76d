import ReportQuery.Double
import ReportQuery.Text.Blank
import ReportQuery.Text.DecimalDigit

namespace ReportQuery.Double

/-- The digits at the front and the rest, where a single underscore may come before a digit that
follows another. -/
def digitRun (digit? : Char → Option Nat) (afterDigit : Bool) : List Char → List Nat × List Char
  | [] => ([], [])
  | c :: rest =>
    match digit? c with
    | some d =>
      let (more, after) := digitRun digit? true rest
      (d :: more, after)
    | none =>
      if afterDigit && c == '_' then
        match digitRun digit? false rest with
        | ([], _) => ([], c :: rest)
        | (more, after) => (more, after)
      else ([], c :: rest)

def plainDigits (s : List Char) : List Nat × List Char :=
  let run := s.takeWhile Char.isDigit
  (run.map fun c => c.toNat - '0'.toNat, s.drop run.length)

def ofDigits (digits : List Nat) : Nat := digits.foldl (fun n d => n * 10 + d) 0

def sign : List Char → Bool × List Char
  | '-' :: rest => (true, rest)
  | '+' :: rest => (false, rest)
  | s => (false, s)

/-- The exponent part, zero where there is none; it ends the text. Its digits are read by `run`. -/
def exponentPart? (run : List Char → List Nat × List Char) : List Char → Option Int
  | [] => some 0
  | c :: rest =>
    if c = 'e' ∨ c = 'E' then
      let (negative, rest) := sign rest
      match run rest with
      | (digits@(_ :: _), []) => some (if negative then -ofDigits digits else ofDigits digits)
      | _ => none
    else none

/-- An unsigned numeral: digits before or after the point, or both, and an exponent part. Its digits
are read by `run`. -/
def unsigned? (run : List Char → List Nat × List Char) (negative : Bool) (s : List Char) :
    Option Double :=
  let (whole, rest) := run s
  let (fraction, rest) :=
    match rest with
    | '.' :: rest => run rest
    | _ => ([], rest)
  match whole ++ fraction with
  | [] => none
  | digits => (exponentPart? run rest).map fun exponent =>
    ofDecimal negative (ofDigits digits) (exponent - fraction.length)

def ofChars? (run : List Char → List Nat × List Char) (s : List Char) : Option Double :=
  let (negative, body) := sign s
  match String.ofList (body.map Char.toLower) with
  | "inf" | "infinity" => some (.infinity negative)
  | "nan" => some .nan
  | _ => unsigned? run negative body

/-- The number that a text writes, with blanks of every kind around it and decimal digits of any
script. -/
def ofFreeText? (s : String) : Option Double :=
  ofChars? (digitRun Text.digitValue? false) (Text.trim Text.isBlank s.toList)

example : ofFreeText? " +1_0.5e1 " = some (ofInt 105) := by decide +kernel

example : ofFreeText? "1__0" = none := by decide +kernel

example : ofFreeText? "-Infinity" = some (.infinity true) := by decide +kernel

end ReportQuery.Double
