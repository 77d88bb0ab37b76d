import ReportQuery.Json
import ReportQuery.Double.Text
import ReportQuery.Text.Quoted

namespace ReportQuery.Json

def escapeUnit (n : Nat) : List Char := '\\' :: 'u' :: Text.hex 4 n

/-- A character within a JSON string; one past the 16-bit range becomes a surrogate pair. -/
def escapeChar (c : Char) : List Char :=
  if c = '"' ∨ c = '\\' then ['\\', c]
  else if c = '\n' then ['\\', 'n']
  else if c = '\r' then ['\\', 'r']
  else if c = '\t' then ['\\', 't']
  else if c = '\x08' then ['\\', 'b']
  else if c = '\x0c' then ['\\', 'f']
  else if ' ' ≤ c ∧ c ≤ '~' then [c]
  else if c.toNat < 0x10000 then escapeUnit c.toNat
  else
    let offset := c.toNat - 0x10000
    escapeUnit (0xd800 + offset / 0x400) ++ escapeUnit (0xdc00 + offset % 0x400)

def stringText (s : String) : String :=
  "\"" ++ String.ofList (s.toList.flatMap escapeChar) ++ "\""

/-- The breaks of a container: before each part, and before its closing bracket. -/
structure Breaks where
  /-- The columns of one level of indentation; with none, all is on one line. -/
  indent : Option Nat

def Breaks.at (breaks : Breaks) (depth : Nat) : String :=
  match breaks.indent with
  | none => ""
  | some columns => "\n" ++ String.ofList (List.replicate (columns * depth) ' ')

def Breaks.comma (breaks : Breaks) (depth : Nat) : String :=
  match breaks.indent with
  | none => ", "
  | some _ => "," ++ breaks.at depth

mutual

def textAt (breaks : Breaks) (depth : Nat) : Json → String
  | .null => "null"
  | .bool b => if b then "true" else "false"
  | .int n => toString n
  | .float x => Double.jsonLayout.text x
  | .str s => stringText s
  | .arr [] => "[]"
  | .arr (item :: items) =>
    "[" ++ breaks.at (depth + 1) ++ textAt breaks (depth + 1) item ++
      itemsText breaks (depth + 1) items ++ breaks.at depth ++ "]"
  | .obj [] => "\x7b\x7d"
  | .obj ((key, value) :: members) =>
    "\x7b" ++ breaks.at (depth + 1) ++ stringText key ++ ": " ++
      textAt breaks (depth + 1) value ++ membersText breaks (depth + 1) members ++
      breaks.at depth ++ "\x7d"

def itemsText (breaks : Breaks) (depth : Nat) : List Json → String
  | [] => ""
  | item :: items =>
    breaks.comma depth ++ textAt breaks depth item ++ itemsText breaks depth items

def membersText (breaks : Breaks) (depth : Nat) : List (String × Json) → String
  | [] => ""
  | (key, value) :: members =>
    breaks.comma depth ++ stringText key ++ ": " ++ textAt breaks depth value ++
      membersText breaks depth members

end

def line (value : Json) : String := textAt ⟨none⟩ 0 value

def indented (value : Json) : String := textAt ⟨some 2⟩ 0 value

end ReportQuery.Json
