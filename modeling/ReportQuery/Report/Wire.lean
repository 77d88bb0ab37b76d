import ReportQuery.Report

namespace ReportQuery.Wire

inductive MatchType where
  | exact
  | partialRegexp
  deriving DecidableEq

inductive Operation where
  | equal
  | lessThan
  | greaterThan
  deriving DecidableEq

inductive Condition where
  | string (value : String) (matchType : MatchType)
  | numeric (operation : Operation) (doubleValue : Double)
  deriving DecidableEq

inductive Expression where
  | andGroup (expressions : List Expression)
  | filter (fieldName : String) (condition : Condition)

/-- The integers of a signed 64-bit field, from `-2 ^ 63` to below `2 ^ 63`. -/
abbrev Int64Field := { n : Int // -0x8000000000000000 ≤ n ∧ n < 0x8000000000000000 }

structure Request where
  property : String
  dateRanges : List (String × String)
  dimensions : List String
  metrics : List String
  limit : Int64Field
  dimensionFilter : Option Expression
  metricFilter : Option Expression

inductive MessageType where
  | filterExpression
  | filterExpressionList
  | runReportRequest
  deriving DecidableEq

def MessageType.name : MessageType → String
  | filterExpression => "google.analytics.data.v1beta.FilterExpression"
  | filterExpressionList => "google.analytics.data.v1beta.FilterExpressionList"
  | runReportRequest => "google.analytics.data.v1beta.RunReportRequest"

inductive EncodeError where
  | outOfRange (n : Int)
  /-- A message in which others are nested too deep. -/
  | tooDeep (type : MessageType)
  deriving DecidableEq

def EncodeError.message : EncodeError → String
  | outOfRange n => "Value out of range: " ++ toString n
  | tooDeep type =>
    "Error parsing message with type '" ++ type.name ++ "': Exceeded upb_DecodeOptions_MaxDepth"

def MatchType.ofTextMatch : TextMatch → MatchType
  | .exact => exact
  | .partialRegexp => partialRegexp

def Operation.ofComparison : NumberComparison → Operation
  | .equal => equal
  | .greater => greaterThan
  | .less => lessThan

def Condition.ofTest : LeafTest → Condition
  | .text value matching => string value (.ofTextMatch matching)
  | .number comparison value => numeric (.ofComparison comparison) value

namespace Expression

mutual

def ofTree : FilterTree → Expression
  | .leaf l => filter l.field (.ofTest l.test)
  | .group parts => andGroup (ofTrees parts)

def ofTrees : List FilterTree → List Expression
  | [] => []
  | part :: parts => ofTree part :: ofTrees parts

end

mutual

/-- How deep messages are nested in the message of an expression. A filter holds its condition,
and a numeric condition its number; a group holds a list of expressions. -/
def nesting : Expression → Nat
  | filter _ (.string ..) => 2
  | filter _ (.numeric ..) => 3
  | andGroup parts => listNesting parts + 1

def listNesting : List Expression → Nat
  | [] => 0
  | part :: parts => max (nesting part + 1) (listNesting parts)

end

end Expression

/-- The depth to which the message library decodes where it is given no other
(`upb_DecodeOptions_MaxDepth`). -/
def nestingLimit : Nat := 100

/-- Takes a message into one that holds it, which decodes it anew from its encoding: messages may be
nested in it up to the limit of the decoder. -/
def MessageType.take (type : MessageType) (nesting : Nat) : Except EncodeError Unit :=
  if nesting ≤ nestingLimit then .ok () else .error (.tooDeep type)

namespace Expression

mutual

/-- Puts an expression together from within: the parts of a group one by one, then their list. -/
def assemble : Expression → Except EncodeError Unit
  | filter .. => .ok ()
  | andGroup parts => do
    assembleParts parts
    parts.forM fun part => MessageType.filterExpression.take (nesting part)
    MessageType.filterExpressionList.take (listNesting parts)

def assembleParts : List Expression → Except EncodeError Unit
  | [] => .ok ()
  | part :: parts => do
    assemble part
    assembleParts parts

end

def encode (tree : FilterTree) : Except EncodeError Expression := do
  let e := ofTree tree
  e.assemble
  MessageType.filterExpression.take e.nesting
  MessageType.runReportRequest.take (e.nesting + 1)
  pure e

theorem nesting_lt_listNesting {part : Expression} {parts : List Expression}
    (h : part ∈ parts) : nesting part < listNesting parts := by
  induction parts with
  | nil => cases h
  | cons first parts ih =>
    rw [listNesting]
    cases h with
    | head => omega
    | tail _ h => have := ih h; omega

theorem take_eq_ok {type : MessageType} {n : Nat} (h : n ≤ nestingLimit) :
    type.take n = .ok () := by
  simp [MessageType.take, h]

theorem forM_take_eq_ok {parts : List Expression}
    (h : ∀ part ∈ parts, nesting part ≤ nestingLimit) :
    (parts.forM fun part => MessageType.filterExpression.take (nesting part)) = .ok () := by
  induction parts with
  | nil => rfl
  | cons part parts ih =>
    rw [List.forM, take_eq_ok (h part List.mem_cons_self)]
    exact ih fun other hother => h other (List.mem_cons_of_mem part hother)

mutual

theorem assemble_eq_ok : ∀ e : Expression, nesting e ≤ nestingLimit + 1 → assemble e = .ok ()
  | filter .., _ => by rw [assemble]
  | andGroup parts, h => by
    rw [nesting] at h
    have hparts : ∀ part ∈ parts, nesting part < nestingLimit := fun part hpart => by
      have := nesting_lt_listNesting hpart
      omega
    rw [assemble, assembleParts_eq_ok parts fun part hpart => by have := hparts part hpart; omega]
    change (do
      parts.forM fun part => MessageType.filterExpression.take (nesting part)
      MessageType.filterExpressionList.take (listNesting parts)) = _
    rw [forM_take_eq_ok fun part hpart => by have := hparts part hpart; omega]
    exact take_eq_ok (by omega)

theorem assembleParts_eq_ok : ∀ parts : List Expression,
    (∀ part ∈ parts, nesting part ≤ nestingLimit + 1) → assembleParts parts = .ok ()
  | [], _ => by rw [assembleParts]
  | part :: parts, h => by
    rw [assembleParts, assemble_eq_ok part (h part List.mem_cons_self)]
    exact assembleParts_eq_ok parts fun other hother => h other (List.mem_cons_of_mem part hother)

end

theorem encode_eq_ok {tree : FilterTree} (h : nesting (ofTree tree) < nestingLimit) :
    encode tree = .ok (ofTree tree) := by
  simp only [encode]
  rw [assemble_eq_ok _ (by omega)]
  change (do
    MessageType.filterExpression.take (nesting (ofTree tree))
    MessageType.runReportRequest.take (nesting (ofTree tree) + 1)
    pure (ofTree tree)) = _
  rw [take_eq_ok (by omega), take_eq_ok (by omega)]
  rfl

/-- Exactly the trees whose nesting is below the limit are encoded. -/
theorem encode_eq_ok_iff {tree : FilterTree} {e : Expression} :
    encode tree = .ok e ↔ nesting (ofTree tree) < nestingLimit ∧ ofTree tree = e := by
  constructor
  · intro h
    by_cases hn : nesting (ofTree tree) < nestingLimit
    · rw [encode_eq_ok hn] at h
      exact ⟨hn, Except.ok.inj h⟩
    · simp only [encode, MessageType.take, if_neg (show ¬nesting (ofTree tree) + 1 ≤ nestingLimit by
        omega)] at h
      split at h <;> cases hassembled : assemble (ofTree tree) <;>
        simp [hassembled, bind, Except.bind] at h
  · rintro ⟨hn, rfl⟩
    exact encode_eq_ok hn

end Expression

def Int64Field.ofInt (n : Int) : Except EncodeError Int64Field :=
  if h : -0x8000000000000000 ≤ n ∧ n < 0x8000000000000000 then .ok ⟨n, h⟩
  else .error (.outOfRange n)

def Request.ofReport (r : Report) : Except EncodeError Request := do
  let limit ← Int64Field.ofInt r.limit
  let dimensionFilter ← r.dimensionFilter.mapM Expression.encode
  let metricFilter ← r.metricFilter.mapM Expression.encode
  pure
    { property := r.path
      dateRanges := [(r.dates.first, r.dates.last)]
      dimensions := r.dimensionNames
      metrics := r.metricNames
      limit
      dimensionFilter
      metricFilter }

structure Row where
  dimensionValues : List String
  metricValues : List String

end ReportQuery.Wire
