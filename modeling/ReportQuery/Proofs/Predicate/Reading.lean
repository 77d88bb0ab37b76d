import ReportQuery.Predicate.Description
import ReportQuery.Proofs.Connector.Supported
import ReportQuery.Proofs.Json.Literal
import ReportQuery.Proofs.Predicate.Targets

namespace ReportQuery

open Json (IsScalar)
open Text (Follows append_mark_inj)

namespace Operator

theorem operatorSign_name (o : Operator) : operatorSign o.name = o.symbol := by
  cases o with
  | equal | greater | less | like => rfl

theorem symbol_inj {o o' : Operator} (h : o.symbol = o'.symbol) : o = o' := by
  cases o with
  | equal | greater | less | like =>
    cases o' with
    | equal | greater | less | like => simp_all [symbol]

theorem blank_not_mem_symbol (o : Operator) : ' ' ∉ o.symbol.toList := by
  cases o with
  | equal | greater | less | like => decide

end Operator

namespace SupportedComparison

variable {column operator : String} {v : Json}

theorem exists_operator (h : SupportedComparison column operator v) :
    ∃ o : Operator, o.name = operator := by
  cases h with
  | dimension ho =>
    simp only [List.mem_cons, List.not_mem_nil, or_false] at ho
    rcases ho with rfl | rfl
    · exact ⟨.equal, rfl⟩
    · exact ⟨.like, rfl⟩
  | metric ho _ =>
    simp only [List.mem_cons, List.not_mem_nil, or_false] at ho
    rcases ho with rfl | rfl | rfl
    · exact ⟨.equal, rfl⟩
    · exact ⟨.greater, rfl⟩
    · exact ⟨.less, rfl⟩

theorem isScalar (h : SupportedComparison column operator v) : IsScalar v := by
  cases h with
  | dimension _ => exact .text
  | metric _ hv =>
    cases hv with
    | integer _ => exact .number .integer
    | number hx => exact .number (.double hx)
    | text _ _ => exact .text

theorem exists_head (h : SupportedComparison column operator v) :
    ∃ c ∈ ['d', 'm'], ∃ rest, column.toList = c :: rest := by
  cases h with
  | dimension _ => exact ⟨'d', List.mem_cons_self, _, String.toList_append⟩
  | metric _ _ => exact ⟨'m', List.mem_cons_of_mem _ List.mem_cons_self, _, String.toList_append⟩

end SupportedComparison

namespace Predicate

variable {target target' : Target} {operator operator' : String} {v v' : Json}
  {rest rest' : List Char}

theorem toList_describe_comparison :
    (comparison target operator (.scalar v)).describe.toList ++ rest =
      target.name.toList ++ ' ' :: ((operatorSign operator).toList ++
        ' ' :: (v.literal.toList ++ rest)) := by
  simp [describe, Operand.describe]

/-- A comparison ends with its literal; up to it, blanks separate what contains none. -/
theorem comparison_append_inj (h : SupportedComparison target.name operator v)
    (h' : SupportedComparison target'.name operator' v') (hname : ' ' ∉ target.name.toList)
    (hname' : ' ' ∉ target'.name.toList) (hrest : Follows rest) (hrest' : Follows rest')
    (hd : (comparison target operator (.scalar v)).describe.toList ++ rest =
      (comparison target' operator' (.scalar v')).describe.toList ++ rest') :
    target.name = target'.name ∧ operator = operator' ∧ v = v' ∧ rest = rest' := by
  obtain ⟨o, rfl⟩ := h.exists_operator
  obtain ⟨o', rfl⟩ := h'.exists_operator
  rw [toList_describe_comparison, toList_describe_comparison, Operator.operatorSign_name,
    Operator.operatorSign_name] at hd
  obtain ⟨htarget, hafter⟩ := append_mark_inj hname hname' hd
  obtain ⟨hsymbol, hlast⟩ :=
    append_mark_inj o.blank_not_mem_symbol o'.blank_not_mem_symbol hafter
  obtain ⟨hliteral, hend⟩ := h.isScalar.literal_append_inj h'.isScalar hrest hrest' hlast
  rw [Operator.symbol_inj (String.toList_inj.mp hsymbol)]
  exact ⟨String.toList_inj.mp htarget, rfl, hliteral, hend⟩

/-- What stands after the first part of a conjunction: the other parts, and the parenthesis. -/
def furtherParts : List Predicate → List Char → List Char
  | [], rest => ')' :: rest
  | part :: parts, rest => " AND ".toList ++ (part.describe.toList ++ furtherParts parts rest)

theorem follows_furtherParts (parts : List Predicate) (rest : List Char) :
    Follows (furtherParts parts rest) := by
  cases parts with
  | nil => exact .close
  | cons part parts => exact .blank

theorem toList_describe_nil : (all []).describe.toList ++ rest = '(' :: ')' :: rest := rfl

theorem intercalate_describeParts (part : Predicate) (parts : List Predicate) :
    " AND ".toList.intercalate ((describeParts (part :: parts)).map String.toList) ++ ')' :: rest =
      part.describe.toList ++ furtherParts parts rest := by
  induction parts generalizing part with
  | nil =>
    simp only [describeParts, List.map_singleton, List.intercalate_singleton, furtherParts]
  | cons next parts ih =>
    have hne : (describeParts (next :: parts)).map String.toList ≠ [] := by simp [describeParts]
    rw [describeParts, List.map_cons, List.intercalate_cons_of_ne_nil hne, furtherParts, ← ih next,
      List.append_assoc, List.append_assoc]

theorem toList_describe_cons (part : Predicate) (parts : List Predicate) :
    (all (part :: parts)).describe.toList ++ rest =
      '(' :: (part.describe.toList ++ furtherParts parts rest) := by
  rw [← intercalate_describeParts, describe, String.toList_append, String.toList_append,
    String.toList_intercalate]
  simp only [String.reduceToList, List.cons_append, List.nil_append, List.append_assoc]

theorem comparison_head (h : SupportedComparison target.name operator v) (rest : List Char) :
    ∃ c ∈ ['d', 'm'], ∃ more,
      (comparison target operator (.scalar v)).describe.toList ++ rest = c :: more := by
  obtain ⟨c, hc, more, hname⟩ := h.exists_head
  rw [toList_describe_comparison, hname]
  exact ⟨c, hc, _, rfl⟩

theorem all_head (parts : List Predicate) (rest : List Char) :
    ∃ more, (all parts).describe.toList ++ rest = '(' :: more := by
  cases parts with
  | nil => exact ⟨_, toList_describe_nil⟩
  | cons part parts => exact ⟨_, toList_describe_cons part parts⟩

theorem comparison_append_ne (h : SupportedComparison target.name operator v) :
    (comparison target operator (.scalar v)).describe.toList ++ rest ≠ '(' :: rest' := by
  obtain ⟨c, hc, more, hleft⟩ := comparison_head h rest
  have hne : ∀ c ∈ ['d', 'm'], c ≠ '(' := by simp
  intro heq
  rw [hleft] at heq
  exact hne c hc (List.cons.inj heq).1

theorem comparison_append_ne_all {parts : List Predicate}
    (h : SupportedComparison target.name operator v) :
    (comparison target operator (.scalar v)).describe.toList ++ rest ≠
      (all parts).describe.toList ++ rest' := by
  obtain ⟨more, hright⟩ := all_head parts rest'
  rw [hright]
  exact comparison_append_ne h

/-- No description begins as the end of a conjunction does, or with the name of none. -/
theorem describe_append_ne {p : Predicate} {d : Char} (h : SupportedPredicate p)
    (hd : d ∈ [')', 'n']) : p.describe.toList ++ rest ≠ d :: rest' := by
  have hne : ∀ c ∈ ['(', 'd', 'm'], ∀ d ∈ [')', 'n'], c ≠ d := by simp
  intro heq
  cases h with
  | @all parts _ =>
    obtain ⟨more, hleft⟩ := all_head parts rest
    rw [hleft] at heq
    exact hne '(' List.mem_cons_self d hd (List.cons.inj heq).1
  | comparison h =>
    obtain ⟨c, hc, more, hleft⟩ := comparison_head h rest
    rw [hleft] at heq
    exact hne c (List.mem_cons_of_mem _ hc) d hd (List.cons.inj heq).1

theorem describe_ne_absent {p : Predicate} (h : SupportedPredicate p) :
    p.describe ≠ describeAbsent := by
  intro heq
  have hchars : p.describe.toList ++ [] = '(' :: 'n' :: ['o', 'n', 'e', ')'] := by
    rw [heq]
    rfl
  cases h with
  | @all parts hparts =>
    cases parts with
    | nil => cases hchars
    | cons part parts =>
      rw [toList_describe_cons] at hchars
      have hpart := hparts part List.mem_cons_self
      exact describe_append_ne hpart (List.mem_cons_of_mem _ List.mem_cons_self)
        (List.cons.inj hchars).2
  | comparison h => exact comparison_append_ne h hchars

/-- A supported predicate whose columns have names without blanks. -/
structure Readable (p : Predicate) : Prop where
  supported : SupportedPredicate p
  names : ∀ name ∈ p.columnNames, ' ' ∉ name.toList

theorem Readable.of_mem {parts : List Predicate} (h : Readable (all parts)) :
    ∀ part ∈ parts, Readable part := by
  intro part hpart
  obtain ⟨hsupported, hnames⟩ := h
  rw [columnNames, forall_mem_columnNamesOf] at hnames
  cases hsupported with
  | all hparts => exact ⟨hparts part hpart, hnames part hpart⟩

/-- Whether a predicate, up to the kind of its targets, and what follows its description can be told
from the text that the two make. -/
def ReadsBack (p : Predicate) : Prop :=
  ∀ ⦃p' : Predicate⦄ ⦃rest rest' : List Char⦄, Readable p' → Follows rest → Follows rest' →
    p.describe.toList ++ rest = p'.describe.toList ++ rest' →
      p.onColumns = p'.onColumns ∧ rest = rest'

theorem furtherParts_inj {parts parts' : List Predicate} (hparts : ∀ part ∈ parts, ReadsBack part)
    (hparts' : ∀ part ∈ parts', Readable part)
    (h : furtherParts parts rest = furtherParts parts' rest') :
    onColumnsOf parts = onColumnsOf parts' ∧ rest = rest' := by
  induction parts generalizing parts' with
  | nil =>
    cases parts' with
    | nil => exact ⟨rfl, (List.cons.inj h).2⟩
    | cons part' parts' => cases (List.cons.inj h).1
  | cons part parts ih =>
    cases parts' with
    | nil => cases (List.cons.inj h).1
    | cons part' parts' =>
      rw [List.forall_mem_cons] at hparts hparts'
      have hfront := List.append_cancel_left h
      obtain ⟨hpart, hfurther⟩ := hparts.1 hparts'.1 (follows_furtherParts parts rest)
        (follows_furtherParts parts' rest') hfront
      obtain ⟨hmore, hend⟩ := ih hparts.2 hparts'.2 hfurther
      rw [onColumnsOf, onColumnsOf, hpart, hmore]
      exact ⟨rfl, hend⟩

theorem readsBack_comparison (h : SupportedComparison target.name operator v)
    (hname : ' ' ∉ target.name.toList) : ReadsBack (comparison target operator (.scalar v)) := by
  intro p' rest rest' hp' hrest hrest' hd
  obtain ⟨hsupported, hnames⟩ := hp'
  cases hsupported with
  | all _ => exact absurd hd (comparison_append_ne_all h)
  | comparison h' =>
    have hname' := hnames _ List.mem_cons_self
    obtain ⟨htarget, rfl, rfl, hend⟩ := comparison_append_inj h h' hname hname' hrest hrest' hd
    rw [onColumns, onColumns, htarget]
    exact ⟨rfl, hend⟩

theorem readsBack_all {parts : List Predicate}
    (hsupported : ∀ part ∈ parts, SupportedPredicate part)
    (hparts : ∀ part ∈ parts, ReadsBack part) : ReadsBack (all parts) := by
  intro p' rest rest' hp' _ _ hd
  cases p' with
  | all parts' =>
    have hreadable := hp'.of_mem
    cases parts with
    | nil =>
      cases parts' with
      | nil =>
        rw [toList_describe_nil, toList_describe_nil] at hd
        exact ⟨rfl, (List.cons.inj (List.cons.inj hd).2).2⟩
      | cons part' parts' =>
        rw [toList_describe_nil, toList_describe_cons] at hd
        have hpart' := (hreadable part' List.mem_cons_self).supported
        exact absurd (List.cons.inj hd).2.symm (describe_append_ne hpart' List.mem_cons_self)
    | cons part parts =>
      cases parts' with
      | nil =>
        rw [toList_describe_cons, toList_describe_nil] at hd
        have hpart := hsupported part List.mem_cons_self
        exact absurd (List.cons.inj hd).2 (describe_append_ne hpart List.mem_cons_self)
      | cons part' parts' =>
        rw [toList_describe_cons, toList_describe_cons] at hd
        -- Behind a separator, the parts are read like those after the first one.
        have hall : furtherParts (part :: parts) rest = furtherParts (part' :: parts') rest' :=
          congrArg (" AND ".toList ++ ·) (List.cons.inj hd).2
        obtain ⟨hcolumns, hend⟩ := furtherParts_inj hparts hreadable hall
        rw [onColumns, onColumns, hcolumns]
        exact ⟨rfl, hend⟩
  | comparison target operator operand =>
    cases hp'.supported with
    | comparison h' => exact absurd hd.symm (comparison_append_ne_all h')
  | any _ | not _ | unary _ _ | existence _ _ | unknown _ _ => cases hp'.supported

/-- By induction on the predicate: a conjunction is read part by part. -/
theorem Readable.readsBack {p : Predicate} (h : Readable p) : ReadsBack p := by
  obtain ⟨hsupported, hnames⟩ := h
  induction hsupported with
  | all hparts ih =>
    rw [columnNames, forall_mem_columnNamesOf] at hnames
    exact readsBack_all hparts fun part hpart => ih part hpart (hnames part hpart)
  | comparison h => exact readsBack_comparison h (hnames _ List.mem_cons_self)

/-- Whether the filters of a predicate that may be absent have trees, with no defect on the way. -/
def Translates (scope : Scope) (p : Option Predicate) : Prop :=
  ∃ filters built, (filtersOfPart p).build scope = .ok built ∧ built.defects = [] ∧
    built.data = some filters

theorem translates_iff {scope : Scope} {p : Option Predicate} :
    Translates scope p ↔ ∀ part, p = some part → SupportedPredicate part := by
  rw [supportedPart_iff_clauses, ← exists_forall₂_iff, ← exists_hasLeaves_iff]
  simp only [Translates, FilterLists.build_clean_iff]
  constructor
  · intro h
    obtain ⟨_, dimension, metric, hl, -⟩ := h
    exact ⟨dimension, metric, hl⟩
  · intro h
    obtain ⟨dimension, metric, hl⟩ := h
    exact ⟨_, dimension, metric, hl, rfl⟩

theorem translates_of_plan {c : Connector} {q : Query} (h : ∃ p, c.plan q = .ok p) :
    Translates c.scope q.predicate := by
  rw [Connector.exists_plan_iff, Connector.exists_prepare_iff] at h
  exact translates_iff.mpr h.1.1

theorem Translates.readable {scope : Scope} {p : Option Predicate} (h : Translates scope p)
    (hnames : ∀ name ∈ columnNamesOfPart p, ' ' ∉ name.toList) :
    ∀ part, p = some part → Readable part := by
  rintro part rfl
  exact ⟨translates_iff.mp h part rfl, hnames⟩

theorem onColumnsPart_of_describePart {p p' : Option Predicate}
    (hp : ∀ part, p = some part → Readable part) (hp' : ∀ part, p' = some part → Readable part)
    (h : describePart p = describePart p') : onColumnsPart p = onColumnsPart p' := by
  have hchars := congrArg String.toList h
  cases p with
  | none =>
    cases p' with
    | none => rfl
    | some part' => exact absurd h.symm (describe_ne_absent (hp' part' rfl).supported)
  | some part =>
    cases p' with
    | none => exact absurd h (describe_ne_absent (hp part rfl).supported)
    | some part' =>
      obtain ⟨hcolumns, -⟩ := (hp part rfl).readsBack (hp' part' rfl) .nil .nil
        (congrArg (· ++ []) hchars)
      exact congrArg some hcolumns

/-- Predicates that translate and have one description give the same filters, and are equal node for
node up to the kind of their targets. -/
theorem describePart_determines {scope scope' : Scope} {p p' : Option Predicate}
    (hp : Translates scope p) (hp' : Translates scope' p')
    (hnames : ∀ name ∈ columnNamesOfPart p, ' ' ∉ name.toList)
    (hnames' : ∀ name ∈ columnNamesOfPart p', ' ' ∉ name.toList)
    (h : describePart p = describePart p') :
    filtersOfPart p = filtersOfPart p' ∧ onColumnsPart p = onColumnsPart p' := by
  have hcolumns : onColumnsPart p = onColumnsPart p' :=
    onColumnsPart_of_describePart (hp.readable hnames) (hp'.readable hnames') h
  have hfilters := congrArg filtersOfPart hcolumns
  rw [filtersOfPart_onColumnsPart, filtersOfPart_onColumnsPart] at hfilters
  exact ⟨hfilters, hcolumns⟩

end Predicate

def Query.visitsOfRoot : Query :=
  { visits with
    predicate := some (.all
      [.comparison (.rootColumn "dimension_country") "_like" (.scalar (.str "^U")), .all [],
        .all [.comparison (.column "metric_sessions") "_gt" (.scalar (.int 3)),
          .comparison (.rootColumn "metric_sessions") "_lt" (.scalar (.str "1e2"))]]) }

theorem exists_plan_visitsOfRoot : ∃ p, Connector.ofShop.plan Query.visitsOfRoot = .ok p :=
  exists_eq_ok_of_isOk (by decide +kernel)

theorem Predicate.describePart_determines_visits :
    filtersOfPart Query.visits.predicate = filtersOfPart Query.visitsOfRoot.predicate ∧
      onColumnsPart Query.visits.predicate = onColumnsPart Query.visitsOfRoot.predicate :=
  describePart_determines (translates_of_plan ⟨_, plan_visits⟩)
    (translates_of_plan exists_plan_visitsOfRoot) (by decide +kernel) (by decide +kernel)
    (by decide +kernel)

end ReportQuery
