namespace ReportQuery.Json

inductive Malformation where
  | noValue
  | noName
  | noColon
  | noComma
  /-- Something after the value. -/
  | extraText
  | openString
  | controlCharacter
  | badEscape
  | badUnicodeEscape
  | byteOrderMark
  deriving DecidableEq

inductive Container where
  | array
  | object
  deriving DecidableEq

def Container.name : Container → String
  | array => "array"
  | object => "object"

inductive ReadError where
  | malformed (what : Malformation) (place : Nat)
  /-- A number of which more digits are written than may be read. -/
  | tooManyDigits (count : Nat)
  /-- A container within too many others. -/
  | tooDeep (container : Container)
  deriving DecidableEq

def Malformation.text : Malformation → String
  | noValue => "Expecting value"
  | noName => "Expecting property name enclosed in double quotes"
  | noColon => "Expecting ':' delimiter"
  | noComma => "Expecting ',' delimiter"
  | extraText => "Extra data"
  | openString => "Unterminated string starting at"
  | controlCharacter => "Invalid control character at"
  | badEscape => "Invalid \\escape"
  | badUnicodeEscape => "Invalid \\uXXXX escape"
  | byteOrderMark => "Unexpected UTF-8 BOM (decode using utf-8-sig)"

/-- A place by line and column, which count from one, and by itself. -/
def placeText (s : List Char) (place : Nat) : String :=
  let before := s.take place
  let line := before.count '\n' + 1
  let column := (before.reverse.takeWhile (· ≠ '\n')).length + 1
  "line " ++ toString line ++ " column " ++ toString column ++ " (char " ++ toString place ++ ")"

def ReadError.message (s : String) : ReadError → String
  | malformed what place => what.text ++ ": " ++ placeText s.toList place
  | tooManyDigits count =>
    "Exceeds the limit (4300 digits) for integer string conversion: value has " ++
      toString count ++ " digits; use sys.set_int_max_str_digits() to increase the limit"
  | tooDeep container =>
    "maximum recursion depth exceeded while decoding a JSON " ++ container.name ++
      " from a unicode string"

end ReportQuery.Json
