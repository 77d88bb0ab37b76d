import ReportQuery.Report.Row

namespace ReportQuery.Table

def columns (rows : List OutputRow) : List String :=
  distinct (rows.flatMap Entries.keys)

def isEmpty (rows : List OutputRow) : Bool := (columns rows).isEmpty

def previewLength : Nat := 20

/-- A text as it stands on a line: tabs and line ends are written as escapes. -/
def cellText (s : String) : String :=
  String.ofList (s.toList.flatMap fun
    | '\t' => ['\\', 't']
    | '\n' => ['\\', 'n']
    | '\r' => ['\\', 'r']
    | c => [c])

/-- Names as the header shows them: without the blanks that all of them begin with. -/
def headings (names : List String) : List String :=
  let shown := names.map fun name => (cellText name).toList
  let common := (shown.map fun s => (s.takeWhile Text.isBlank).length).min?.getD 0
  shown.map fun s => String.ofList (s.drop common)

def padLeft (width : Nat) (s : String) : String :=
  String.ofList (List.replicate (width - s.length) ' ') ++ s

/-- What stands for an absent value: in a column without any value, another word than elsewhere. -/
def absent (rows : List OutputRow) (column : String) : String :=
  if rows.all fun row => (Entries.get? column row).join.isNone then "None" else "NaN"

def columnCells (rows : List OutputRow) (column heading : String) : List String :=
  let cells := heading :: (rows.take previewLength).map fun row =>
    ((Entries.get? column row).join.map cellText).getD (absent rows column)
  let width := (cells.map String.length).foldl max 0
  cells.map (padLeft width)

def sideBySide : List (List String) → List String
  | [] => []
  | [cells] => cells
  | cells :: more => List.zipWith (fun a b => a ++ " " ++ b) cells (sideBySide more)

def preview (rows : List OutputRow) : String :=
  let names := columns rows
  "\n".intercalate (sideBySide (List.zipWith (columnCells rows) names (headings names)))

end ReportQuery.Table
