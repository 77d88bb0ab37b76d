import ReportQuery.Column
import ReportQuery.Entries
import ReportQuery.Text.Blank

namespace ReportQuery.EnvFile

def unixLines : List Char → List Char
  | '\r' :: '\n' :: rest => '\n' :: unixLines rest
  | '\r' :: rest => '\n' :: unixLines rest
  | c :: rest => c :: unixLines rest
  | [] => []

def isInlineBlank (c : Char) : Bool := Text.isBlank c && c != '\n'

def skipInline (s : List Char) : List Char := s.dropWhile isInlineBlank

/-- A part that is read from the front of a text, with what follows it; or the text at which the
reading failed. -/
abbrev Read (α : Type) := Except (List Char) (α × List Char)

/-- The body of a quoted value and what follows it. A backslash and the character after it belong
to the body together. -/
def quotedBody? (quote : Char) : List Char → Option (List Char × List Char)
  | [] => none
  | '\\' :: c :: rest =>
    (quotedBody? quote rest).map fun (body, after) => ('\\' :: c :: body, after)
  | c :: rest =>
    if c = quote then some ([], rest)
    else (quotedBody? quote rest).map fun (body, after) => (c :: body, after)

/-- Replaces escapes; a backslash before any other character stays. -/
def unescape (escape? : Char → Option Char) (afterBackslash : Bool) : List Char → List Char
  | [] => if afterBackslash then ['\\'] else []
  | c :: rest =>
    if afterBackslash then
      match escape? c with
      | some e => e :: unescape escape? false rest
      | none => '\\' :: c :: unescape escape? false rest
    else if c = '\\' then unescape escape? true rest
    else c :: unescape escape? false rest

def singleEscape? : Char → Option Char
  | '\\' => some '\\'
  | '\'' => some '\''
  | _ => none

def doubleEscape? : Char → Option Char
  | '\\' => some '\\'
  | '\'' => some '\''
  | '"' => some '"'
  | 'a' => some '\x07'
  | 'b' => some '\x08'
  | 'f' => some '\x0c'
  | 'n' => some '\n'
  | 'r' => some '\r'
  | 't' => some '\t'
  | 'v' => some '\x0b'
  | _ => none

/-- An unquoted value up to a comment, which blanks set apart from it. -/
def beforeComment : List Char → List Char
  | [] => []
  | c :: rest =>
    if Text.isBlank c && (rest.dropWhile Text.isBlank).head? == some '#' then []
    else c :: beforeComment rest

def skipExport (s : List Char) : List Char :=
  match afterFront? "export".toList s with
  | some rest => if rest.head?.any isInlineBlank then skipInline rest else s
  | none => s

def name : List Char → Read (Option String)
  | [] => .error []
  | '#' :: rest => .ok (none, '#' :: rest)
  | '\'' :: rest =>
    let body := rest.takeWhile (· ≠ '\'')
    match body, rest.drop body.length with
    | _ :: _, _ :: after => .ok (some (String.ofList body), after)
    | _, _ => .error ('\'' :: rest)
  | s =>
    let word := s.takeWhile fun c => c ≠ '=' && c ≠ '#' && !Text.isBlank c
    if word.isEmpty then .error s else .ok (some (String.ofList word), s.drop word.length)

def value (s : List Char) : Read String :=
  match skipInline s with
  | '\'' :: rest =>
    match quotedBody? '\'' rest with
    | some (body, after) => .ok (String.ofList (unescape singleEscape? false body), after)
    | none => .error ('\'' :: rest)
  | '"' :: rest =>
    match quotedBody? '"' rest with
    | some (body, after) => .ok (String.ofList (unescape doubleEscape? false body), after)
    | none => .error ('"' :: rest)
  | _ =>
    let line := s.takeWhile (· ≠ '\n')
    .ok (String.ofList (Text.trim Text.isBlank (beforeComment line)), s.drop line.length)

def endOfLine (s : List Char) : Read Unit :=
  let rest := match skipInline s with
    | '#' :: rest => rest.dropWhile (· ≠ '\n')
    | _ => s
  match skipInline rest with
  | [] => .ok ((), [])
  | '\n' :: after => .ok ((), after)
  | _ => .error rest

/-- A name with its value; a name without an equals sign has none. -/
def binding (s : List Char) :
    Except (List Char) (Option (String × Option String) × List Char) := do
  let (name, rest) ← name (skipExport s)
  let (value, rest) ← match skipInline rest with
    | '=' :: rest => do
      let (v, rest) ← value rest
      pure (some v, rest)
    | rest => pure (none, rest)
  let ((), rest) ← endOfLine rest
  pure (name.map fun n => (n, value), rest)

def bindings (s : List Char) : List (String × Option String) :=
  let start := s.dropWhile Text.isBlank
  if start.isEmpty then []
  else
    let (found, rest) := match binding start with
      | .ok (found, rest) => (found.toList, rest)
      | .error rest => ([], (rest.dropWhile (· ≠ '\n')).drop 1)
    if rest.length < s.length then found ++ bindings rest else found
termination_by s.length

/-- A reference at the front, just after its opening brace: the name, the default, the rest. -/
def reference? (s : List Char) : Option (String × String × List Char) :=
  let name := s.takeWhile fun c => c ≠ '\x7d' && c ≠ ':'
  match s.drop name.length with
  | '\x7d' :: rest => some (String.ofList name, "", rest)
  | ':' :: '-' :: tail =>
    let default := tail.takeWhile (· ≠ '\x7d')
    match tail.drop default.length with
    | _ :: rest => some (String.ofList name, String.ofList default, rest)
    | [] => none
  | _ => none

/-- Replaces references by the values of the variables, an unset one by its default. -/
def expand (lookup : String → Option String) : List Char → List Char
  | [] => []
  | c :: rest =>
    let found := if c = '$' && rest.head? == some '\x7b' then reference? (rest.drop 1) else none
    match found with
    | some (name, default, after) =>
      ((lookup name).getD default).toList ++
        if after.length ≤ rest.length then expand lookup after else []
    | none => c :: expand lookup rest
termination_by s => s.length

def withoutMark : List Char → List Char
  | '\ufeff' :: rest => rest
  | s => s

/-- The variables of a file, where the environment gives those that the file refers to but does not
set itself. -/
def values (environment : Entries String) (text : String) : Entries (Option String) :=
  (bindings (unixLines (withoutMark text.toList))).foldl (fun set (name, value) =>
    let lookup (key : String) : Option String :=
      match Entries.get? key set with
      | some v => some (v.getD "")
      | none => Entries.get? key environment
    Entries.put name (value.map fun v => String.ofList (expand lookup v.toList)) set) []

end ReportQuery.EnvFile
