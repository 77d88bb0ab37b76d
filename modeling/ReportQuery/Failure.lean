import ReportQuery.Defect
import ReportQuery.DateRange

namespace ReportQuery

inductive Failure.Category where
  | connector
  | badQuery
  | unsupportedDate
  | service
  | unprocessable
  deriving DecidableEq

/-- The status by which a host protocol reports a category. -/
def Failure.Category.status : Category → Nat
  | connector => 500
  | badQuery => 400
  | unsupportedDate => 400
  | service => 502
  | unprocessable => 422

def Failure.Category.isBadQuery : Category → Bool
  | badQuery => true
  | unsupportedDate => true
  | _ => false

structure Failure where
  category : Failure.Category
  message : String
  details : Entries Json
  /-- The messages on the defects of a query. -/
  messages : List Message

namespace Failure

def of (category : Category) (message : String) (details : Entries Json) : Failure :=
  ⟨category, message, details, []⟩

/-- A query that is rejected for its defects. Their messages are part of the details, unless these
have errors of their own. -/
def badQuery (message : String) (messages : List Message) (details : Entries Json) : Failure :=
  let full :=
    if messages.isEmpty ∨ (Entries.get? "errors" details).isSome then details
    else details ++ [("errors", .arr (messages.map Message.toJson))]
  ⟨.badQuery, message, full, messages⟩

def ofMessages (messages : List Message) : Failure :=
  let joined := "; ".intercalate (messages.map Message.text)
  let summary := if joined = "" then "unknown translation error" else joined
  badQuery ("Query translation failed: " ++ summary) messages []

def ofUnsupportedDate (e : UnsupportedDate) : Failure :=
  of .unsupportedDate e.message e.details

end Failure

end ReportQuery
