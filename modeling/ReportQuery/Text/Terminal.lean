namespace ReportQuery.Text

def isParameter (c : Char) : Bool := c.isDigit || c == ';' || c == '?'

def controlSequence? : List Char → Option Nat
  | '\x1b' :: '[' :: rest =>
    let parameters := rest.takeWhile isParameter
    if (rest.drop parameters.length).head?.any Char.isAlpha then some (parameters.length + 3)
    else none
  | _ => none

/-- A text without control sequences; its first `skip` characters belong to one. -/
def dropControls (skip : Nat) : List Char → List Char
  | [] => []
  | c :: rest =>
    match skip, controlSequence? (c :: rest) with
    | skip + 1, _ => dropControls skip rest
    | 0, some length => dropControls (length - 1) rest
    | 0, none => c :: dropControls 0 rest

def withoutControls (s : String) : String := String.ofList (dropControls 0 s.toList)

def joinLineEnds : List Char → List Char
  | [] => []
  | c :: rest =>
    if c = '\r' ∧ rest.head? = some '\n' then joinLineEnds rest else c :: joinLineEnds rest

def withLineFeeds (s : String) : String := String.ofList (joinLineEnds s.toList)

example : withoutControls "a\x1b[1;31mb\x1b[?c\x1b[\x1b[0m" = "ab\x1b[" := by decide +kernel

example : withLineFeeds "a\r\nb\rc\r\r\n" = "a\nb\rc\r\n" := by decide +kernel

theorem controlSequence?_of_ne {c : Char} {rest : List Char} (h : c ≠ '\x1b') :
    controlSequence? (c :: rest) = none := by
  unfold controlSequence?
  split
  · simp_all
  · rfl

theorem dropControls_of_not_mem {s : List Char} (h : '\x1b' ∉ s) : dropControls 0 s = s := by
  induction s with
  | nil => rfl
  | cons c rest ih =>
    rw [List.mem_cons, not_or] at h
    simp [dropControls, controlSequence?_of_ne (Ne.symm h.1), ih h.2]

end ReportQuery.Text
