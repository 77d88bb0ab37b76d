import ReportQuery.Schema.Checked
import ReportQuery.Double.Numeral

namespace ReportQuery.Schema

open Checked

/-- A text without its underscores, of which it must have some: none at an end, and no two in a
row. -/
def withoutUnderscores? (s : List Char) : Option (List Char) :=
  let atEnd := s.head? == some '_' || s.getLast? == some '_'
  let inRow := (s.zip (s.drop 1)).contains ('_', '_')
  if s.contains '_' && !atEnd && !inRow then some (s.filter (· ≠ '_')) else none

/-- The integer of a plain numeral: digits, the first no zero where there are more, and perhaps a
minus. -/
def plainInteger (s : List Char) : Except Problem Int :=
  let (negative, body) := match s with
    | '-' :: rest => (true, rest)
    | _ => (false, s)
  let (digits, rest) := Double.plainDigits body
  let canonical := match digits with
    | [] => false
    | 0 :: _ :: _ => false
    | _ => true
  if !canonical then .error .notIntegerText
  else if 4300 < digits.length then .error .integerTooLarge
  else if !rest.isEmpty then .error .notIntegerText
  else
    let magnitude : Int := (Double.ofDigits digits : Nat)
    .ok (if negative then -magnitude else magnitude)

/-- What follows zeros, and underscores after them, of which `last` was the last. The last stays
if a point or nothing follows. A minus may follow, too. -/
def afterZeros? (last : Char) : List Char → Option (List Char)
  | [] => some [last]
  | c :: rest =>
    if c = '0' ∨ c = '_' then afterZeros? c rest
    else if c = '.' then some (last :: c :: rest)
    else if c.isDigit ∨ c = '-' then some (c :: rest)
    else none

def dropZeros? : List Char → Option (List Char)
  | '0' :: rest => afterZeros? '0' rest
  | c :: rest => if c.isDigit then some (c :: rest) else none
  | [] => none

def dropZeroFraction (s : List Char) : List Char :=
  let whole := s.takeWhile (· ≠ '.')
  match s.drop (whole.length + 1) with
  | [] => s
  | fraction => if fraction.all (· == '0') then whole else s

/-- A numeral in plain form: without a plus, zeros in front, a fraction of zeros and
underscores. -/
def plainForm? (s : List Char) : Option (List Char) :=
  let (negative, body) := Double.sign s
  (dropZeros? body).map fun body =>
    let whole := dropZeroFraction (if negative then '-' :: body else body)
    (withoutUnderscores? whole).getD whole

/-- The integer that a text writes, as a plain numeral or, within blanks, as a numeral that has a
plain form. The length is held only against a text that is plain from the start. -/
def integerOfText (s : String) : Checked Int :=
  let plain? := plainForm? (Text.trim Text.isWhiteSpace s.toList)
  match plainInteger s.toList, plain?.map plainInteger with
  | .error .notIntegerText, some (.ok n) => valid n
  | result, _ => ofExcept result

/-- The integer that a number is. Only those strictly within the signed 64-bit range are taken. -/
def integerOfDouble (x : Double) : Checked Int :=
  if !x.isFinite then fault .notFinite
  else match x.toInt? with
    | none => fault .hasFraction
    | some n =>
      if -0x8000000000000000 < n ∧ n < 0x8000000000000000 then valid n else fault .integerTooLarge

def integer : Json → Checked Int
  | .int n => valid n
  | .bool b => valid (if b then 1 else 0)
  | .float x => integerOfDouble x
  | .str s => integerOfText s
  | _ => fault .notInteger

def positive (n : Int) : Checked { n : Nat // 0 < n } :=
  if h : 0 < n then valid ⟨n.toNat, by omega⟩ else fault .notPositive

/-- The number that a text writes with plain digits, between which underscores may stand if no
blanks are around. -/
def doubleOfText? (s : String) : Option Double :=
  let plain? := Double.ofChars? Double.plainDigits
  (plain? (Text.trim Text.isWhiteSpace s.toList)).or
    ((withoutUnderscores? s.toList).bind plain?)

def number : Json → Checked Double
  | .int n => valid (.ofInt n)
  | .bool b => valid (.ofInt (if b then 1 else 0))
  | .float x => valid x
  | .str s =>
    match doubleOfText? s with
    | some x => valid x
    | none => fault .notNumberText
  | _ => fault .notNumber

end ReportQuery.Schema
