import ReportQuery.Json.Token

namespace ReportQuery.Json

mutual

/-- A value whose objects have one member of each name: of those that are written the last gives
the value and the first the place. -/
def settled : Json → Json
  | .arr items => .arr (settledItems items)
  | .obj members => .obj (Entries.ofList (settledMembers members))
  | value => value

def settledItems : List Json → List Json
  | [] => []
  | item :: items => settled item :: settledItems items

def settledMembers : List (String × Json) → List (String × Json)
  | [] => []
  | (key, value) :: members => (key, settled value) :: settledMembers members

end

/-- An open container, its finished parts in reverse. -/
inductive Frame where
  | array (items : List Json)
  | object (members : List (String × Json)) (key : String)

/-- What the reader expects next. `first` is true just after a container was opened, where it may
also be closed. -/
inductive Reader where
  | value (first : Bool) (stack : List Frame)
  | key (first : Bool) (members : List (String × Json)) (stack : List Frame)
  | colon (members : List (String × Json)) (key : String) (stack : List Frame)
  | after (value : Json) (stack : List Frame)

namespace Reader

def depth : Reader → Nat
  | value _ stack | after _ stack => stack.length
  | key _ _ stack | colon _ _ stack => stack.length + 1

def container? : Reader → Option Container
  | value _ [] | after _ [] => none
  | value _ (.array _ :: _) | after _ (.array _ :: _) => some .array
  | value _ (.object .. :: _) | after _ (.object .. :: _) | key .. | colon .. => some .object

def expected : Reader → Malformation
  | value .. => .noValue
  | key .. => .noName
  | colon .. => .noColon
  | after _ [] => .extraText
  | after _ (_ :: _) => .noComma

def advance? : Reader → Token → Option Reader
  | value _ stack, .literal v => some (after v stack)
  | value _ stack, .text s => some (after (.str s) stack)
  | value _ stack, .openArray => some (value true (.array [] :: stack))
  | value _ stack, .openObject => some (key true [] stack)
  | value true (.array _ :: stack), .closeArray => some (after (.arr []) stack)
  | key _ members stack, .text k => some (colon members k stack)
  | key true _ stack, .closeObject => some (after (.obj []) stack)
  | colon members k stack, .colon => some (value false (.object members k :: stack))
  | after v (.array items :: stack), .comma => some (value false (.array (v :: items) :: stack))
  | after v (.array items :: stack), .closeArray => some (after (.arr (v :: items).reverse) stack)
  | after v (.object members k :: stack), .comma => some (key false ((k, v) :: members) stack)
  | after v (.object members k :: stack), .closeObject =>
    some (after (.obj ((k, v) :: members).reverse) stack)
  | _, _ => none

/-- The reader after the token at a place. A token with a fault is judged by it only where a sound
one would be taken. -/
def take (r : Reader) (placed : Nat × Token) : Except ReadError Reader :=
  match r, placed.2 with
  | value .., .brokenText e | value .., .brokenLiteral e | key .., .brokenText e => .error e
  | _, token =>
    match r.advance? token with
    | some next => .ok next
    | none => .error (.malformed r.expected placed.1)

/-- Takes the token at a place, where nothing may stand within more than `limit` containers. -/
def step (limit : Nat) (r : Reader) (placed : Nat × Token) : Except ReadError Reader :=
  let next := r.take placed
  let closes := next.toOption.any fun next => next.depth < r.depth
  match r.container? with
  | some container => if limit < r.depth ∧ !closes then .error (.tooDeep container) else next
  | none => next

def finish (r : Reader) (place : Nat) : Except ReadError Json :=
  match r with
  | after v [] => .ok v
  | _ => .error (.malformed r.expected place)

end Reader

def read (limits : Limits) (s : String) : Except ReadError Json :=
  let chars := s.toList
  if chars.head? = some '\ufeff' then .error (.malformed .byteOrderMark 0)
  else do
    let r ← (Token.scan limits chars).foldlM (Reader.step limits.depth) (.value false [])
    r.finish chars.length

/-- The limits of the reader that belongs to the schema library. -/
def schemaLimits : Limits where
  depth := 200
  integerDigits := 4300
  wholeDigits := some 4300
  loneSurrogates := false

/-- The limits of the standard reader. Its depth is a stack of 1000 calls, less the ten or so below
it. -/
def freeLimits : Limits where
  depth := 990
  integerDigits := 4300
  wholeDigits := none
  loneSurrogates := true

def written? (s : String) : Option Json := (read schemaLimits s).toOption

def ofText? (s : String) : Option Json := (written? s).map settled

end ReportQuery.Json
