import ReportQuery.Json.Reader
import ReportQuery.Query
import ReportQuery.Predicate.Schema
import ReportQuery.Schema.Number

namespace ReportQuery

open Schema Checked

def DateArgument.check : Json → Checked DateArgument :=
  record fun members =>
    DateArgument.mk <$> optional "type" "literal" text members
      <*> optional "value" [] mapping members

/-- The arguments of a query. Of the two names of the date range the first has precedence. -/
def Query.checkArguments : Json → Checked (Option DateArgument) :=
  record fun members =>
    let name := if (Entries.get? "dateRange" members).isSome then "dateRange" else "date_range"
    optional name none (nullable DateArgument.check) members

def Query.checkField : Json → Checked String :=
  record fun members =>
    (fun _ column => column) <$> optional "type" () (word "column") members
      <*> required "column" text members

/-- The fields as they are written. All of them are checked; of those with one name the last gives
the column and the first the place. -/
def Query.checkFields (written : Json) : Checked { fields : Entries String // fields.keys.Nodup } :=
  (fun entries => ⟨Entries.ofList entries, Entries.nodup_keys_ofList entries⟩) <$>
    mappingOf (fun field => Query.checkField field.settled) written

def Query.checkLimit (value : Json) : Checked { n : Nat // 0 < n } :=
  (integer value).refine positive

def Query.check : Json → Checked Query :=
  record fun written =>
    let members := Entries.ofList (Json.settledMembers written)
    (fun fields predicate limit dates => ⟨fields.val, predicate, limit, dates, fields.property⟩)
      <$> optional "fields" ⟨[], List.nodup_nil⟩ Query.checkFields (Entries.ofList written)
      <*> optional "predicate" none (nullable Predicate.check) members
      <*> optional "limit" none (nullable Query.checkLimit) members
      <*> optional "arguments" none Query.checkArguments members

def Query.ofText (s : String) : Checked Query := Schema.ofText Json.written? Query.check s

end ReportQuery
