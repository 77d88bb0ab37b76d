import ReportQuery.Double.Numeral
import ReportQuery.Json
import ReportQuery.Json.ReadError
import ReportQuery.Text.Surrogate

namespace ReportQuery.Json

structure Limits where
  /-- The depth to which containers may be nested, those aside that hold nothing. -/
  depth : Nat
  /-- The digits of an integer. -/
  integerDigits : Nat
  /-- The digits before the point or the exponent of a number that is no integer, if they are
  limited. -/
  wholeDigits : Option Nat
  /-- Whether strings may have surrogates without a partner. -/
  loneSurrogates : Bool

inductive Token where
  | openArray | closeArray | openObject | closeObject | comma | colon
  | text (s : String)
  | literal (value : Json)
  /-- A string with a fault. -/
  | brokenText (e : ReadError)
  /-- A number that is not read. -/
  | brokenLiteral (e : ReadError)
  /-- What begins no token. -/
  | stray
  deriving Inhabited

namespace Token

/-- The digits before the point; a zero stands alone. -/
def wholePart? : List Char → Option (List Nat × List Char)
  | '0' :: rest => some ([0], rest)
  | s =>
    match Double.plainDigits s with
    | ([], _) => none
    | part => some part

def fractionPart : List Char → List Nat × List Char
  | '.' :: rest =>
    match Double.plainDigits rest with
    | ([], _) => ([], '.' :: rest)
    | part => part
  | s => ([], s)

def exponentPart? : List Char → Option (Int × List Char)
  | [] => none
  | c :: rest =>
    if c = 'e' ∨ c = 'E' then
      let (negative, rest) := Double.sign rest
      match Double.plainDigits rest with
      | ([], _) => none
      | (digits, rest) =>
        some (if negative then -Double.ofDigits digits else Double.ofDigits digits, rest)
    else none

/-- The number at the front, and the rest. With neither a fraction nor an exponent it is an
integer. -/
def number? (limits : Limits) (negative : Bool) (s : List Char) : Option (Token × List Char) :=
  (wholePart? s).map fun (whole, rest) =>
    let (fraction, rest) := fractionPart rest
    match fraction, exponentPart? rest with
    | [], none =>
      if limits.integerDigits < whole.length then
        (brokenLiteral (.tooManyDigits whole.length), rest)
      else
        let magnitude : Int := (Double.ofDigits whole : Nat)
        (literal (.int (if negative then -magnitude else magnitude)), rest)
    | _, exponent =>
      let (power, rest) := exponent.getD (0, rest)
      if limits.wholeDigits.any (· < whole.length) then
        (brokenLiteral (.tooManyDigits whole.length), rest)
      else
        (literal (.float (.ofDecimal negative (Double.ofDigits (whole ++ fraction))
          (power - fraction.length))), rest)

def constants : List (String × Json) :=
  [("null", .null), ("true", .bool true), ("false", .bool false), ("NaN", .float .nan),
    ("Infinity", .float (.infinity false)), ("-Infinity", .float (.infinity true))]

def value? (limits : Limits) (s : List Char) : Option (Token × List Char) :=
  match constants.findSome? fun (name, v) => (name.toList.isPrefixOf? s).map (v, ·) with
  | some (v, rest) => some (literal v, rest)
  | none =>
    match s with
    | '-' :: rest => number? limits true rest
    | _ => number? limits false s

def ofWord (limits : Limits) (start : Nat) (s : List Char) : List (Nat × Token) :=
  match value? limits s with
  | none => [(start, stray)]
  | some (token, []) => [(start, token)]
  | some (token, rest) => [(start, token), (start + s.length - rest.length, stray)]

def isWordChar (c : Char) : Bool :=
  c.isAlphanum || c == '-' || c == '+' || c == '.' || c == '_'

/-- Where the scanner is. Of a token that it is within it knows the place, and what it has read in
reverse. -/
inductive Scan where
  | between
  | word (start : Nat) (read : List Char)
  | string (start : Nat) (read : List Char)
  | escape (start : Nat) (read : List Char)
  /-- Within `\u` or after it, with its digits in reverse. `high` is a high surrogate just before
  it. -/
  | unicode (start : Nat) (read : List Char) (high : Option Nat) (digits : List Nat)
  /-- After the backslash that follows a high surrogate. -/
  | pendingEscape (start : Nat) (read : List Char) (high : Nat)

def simpleEscape? : Char → Option Char
  | '"' => some '"'
  | '\\' => some '\\'
  | '/' => some '/'
  | 'b' => some '\x08'
  | 'f' => some '\x0c'
  | 'n' => some '\n'
  | 'r' => some '\r'
  | 't' => some '\t'
  | _ => none

def hexDigit? (c : Char) : Option Nat :=
  if '0' ≤ c ∧ c ≤ '9' then some (c.toNat - '0'.toNat)
  else if 'a' ≤ c ∧ c ≤ 'f' then some (c.toNat - 'a'.toNat + 10)
  else if 'A' ≤ c ∧ c ≤ 'F' then some (c.toNat - 'A'.toNat + 10)
  else none

def addLoneSurrogate? (limits : Limits) (read : List Char) : Option (List Char) :=
  if limits.loneSurrogates then some (Text.replacement :: read) else none

/-- Adds the unit of an escape to what is read. A high surrogate is not added yet: it is the second
part of the answer. -/
def addUnit? (limits : Limits) (unit : Nat) (read : List Char) :
    Option (List Char × Option Nat) :=
  if Text.isHighSurrogate unit then some (read, some unit)
  else if Text.isLowSurrogate unit then (addLoneSurrogate? limits read).map (·, none)
  else some (Char.ofNat unit :: read, none)

def addUnitAfter? (limits : Limits) (high : Option Nat) (unit : Nat) (read : List Char) :
    Option (List Char × Option Nat) :=
  match high with
  | none => addUnit? limits unit read
  | some high =>
    if Text.isLowSurrogate unit then some (Text.ofSurrogates high unit :: read, none)
    else (addLoneSurrogate? limits read).bind (addUnit? limits unit)

def punctuation? : Char → Option Token
  | '[' => some openArray
  | ']' => some closeArray
  | '{' => some openObject
  | '}' => some closeObject
  | ',' => some comma
  | ':' => some colon
  | _ => none

namespace Scan

def breakOff (start : Nat) (what : Malformation) (place : Nat) : List (Nat × Token) × Scan :=
  ([(start, brokenText (.malformed what place))], between)

def begin (place : Nat) (c : Char) : List (Nat × Token) × Scan :=
  if c = ' ' ∨ c = '\t' ∨ c = '\n' ∨ c = '\r' then ([], between)
  else if c = '"' then ([], string place [])
  else if isWordChar c then ([], word place [c])
  else ([(place, (punctuation? c).getD stray)], between)

def inString (start : Nat) (read : List Char) (place : Nat) (c : Char) :
    List (Nat × Token) × Scan :=
  if c = '"' then ([(start, text (String.ofList read.reverse))], between)
  else if c = '\\' then ([], escape start read)
  else if c.toNat < 0x20 then breakOff start .controlCharacter place
  else ([], string start (c :: read))

def inEscape (start : Nat) (read : List Char) (place : Nat) (c : Char) :
    List (Nat × Token) × Scan :=
  if c = 'u' then ([], unicode start read none [])
  else match simpleEscape? c with
    | some e => ([], string start (e :: read))
    | none => breakOff start .badEscape (place - 1)

/-- Takes the character at a place: the tokens that end with it, and where the scanner is then. An
escape with four digits ends only with the character after it. -/
def step (limits : Limits) (scan : Scan) (place : Nat) (c : Char) : List (Nat × Token) × Scan :=
  match scan with
  | between => begin place c
  | word start read =>
    if isWordChar c then ([], word start (c :: read))
    else
      let (tokens, next) := begin place c
      (ofWord limits start read.reverse ++ tokens, next)
  | string start read => inString start read place c
  | escape start read => inEscape start read place c
  | unicode start read high [d4, d3, d2, d1] =>
    match addUnitAfter? limits high (((d1 * 16 + d2) * 16 + d3) * 16 + d4) read with
    | none => breakOff start .badUnicodeEscape (place - 5)
    | some (read, none) => inString start read place c
    | some (read, some high) =>
      if c = '\\' then ([], pendingEscape start read high)
      else match addLoneSurrogate? limits read with
        | none => breakOff start .badUnicodeEscape (place - 5)
        | some read => inString start read place c
  | unicode start read high digits =>
    match hexDigit? c with
    | some d => ([], unicode start read high (d :: digits))
    | none => breakOff start .badUnicodeEscape (place - digits.length - 1)
  | pendingEscape start read high =>
    if c = 'u' then ([], unicode start read (some high) [])
    else match addLoneSurrogate? limits read with
      | none => breakOff start .badUnicodeEscape (place - 6)
      | some read => inEscape start read place c

def finish (limits : Limits) (scan : Scan) (place : Nat) : List (Nat × Token) :=
  match scan with
  | between => []
  | word start read => ofWord limits start read.reverse
  | string start _ | escape start _ | pendingEscape start .. => (breakOff start .openString start).1
  | unicode start _ _ digits => (breakOff start .badUnicodeEscape (place - digits.length - 1)).1

end Scan

def scanFrom (limits : Limits) (place : Nat) (scan : Scan) : List Char → List (Nat × Token)
  | [] => scan.finish limits place
  | c :: rest =>
    let (tokens, next) := scan.step limits place c
    tokens ++ scanFrom limits (place + 1) next rest

def scan (limits : Limits) (s : List Char) : List (Nat × Token) := scanFrom limits 0 .between s

end Token

end ReportQuery.Json
