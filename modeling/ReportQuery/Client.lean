import ReportQuery.Log
import ReportQuery.Report.Row

namespace ReportQuery

inductive FailureKind where
  | serviceUnavailable
  | permissionDenied
  | tooManyRequests
  | resourceExhausted
  | gatewayTimeout
  | deadlineExceeded
  | notFound
  | internalServerError
  | unauthenticated
  | invalidArgument
  | cancelled
  | aborted
  | unknown
  | apiCall
  | retriesExhausted
  | authentication
  | transport
  | refresh
  | defaultCredentials
  /-- Failures that do not come from the service. -/
  | badValue
  | badMessage
  | internal
  deriving DecidableEq

namespace FailureKind

def status? : FailureKind → Option Nat
  | serviceUnavailable => some 503
  | permissionDenied => some 403
  | tooManyRequests | resourceExhausted => some 429
  | gatewayTimeout | deadlineExceeded => some 504
  | notFound => some 404
  | internalServerError => some 500
  | unauthenticated => some 401
  | invalidArgument => some 400
  | cancelled => some 499
  | aborted => some 409
  | _ => none

/-- Whether the text of a failure begins with its status. -/
def isApiCall : FailureKind → Bool
  | unknown | apiCall => true
  | kind => kind.status?.isSome

def isOfService : FailureKind → Bool
  | badValue | badMessage | internal => false
  | _ => true

end FailureKind

structure ClientFailure where
  kind : FailureKind
  message : String
  /-- The failure behind the last of several tries. -/
  cause : Option String
  deriving DecidableEq

namespace ClientFailure

def text (f : ClientFailure) : String :=
  if f.kind.isApiCall then
    ((f.kind.status?.map toString).getD "None") ++ " " ++ f.message
  else if f.kind = .retriesExhausted then
    f.message ++ ", last exception: " ++ f.cause.getD "None"
  else f.message

def ofEncodeError (e : Wire.EncodeError) : ClientFailure :=
  let kind := match e with
    | .outOfRange _ => FailureKind.badValue
    | .tooDeep _ => FailureKind.badMessage
  ⟨kind, e.message, none⟩

end ClientFailure

/-- One call of a client: the requests that reached the service, in the form in which they did, the
log records, and the answer. -/
structure Call (Sent : Type) where
  sent : List Sent
  log : List Log.Record
  answer : Except ClientFailure (List Row)

abbrev ReportClient (Sent : Type) := Report → Call Sent

namespace ReportClient

def inMemory (answer : Except ClientFailure (List Row)) : ReportClient Report :=
  fun report => ⟨[report], [], answer⟩

def runRecord (report : Report) (request : Wire.Request) : Log.Record where
  level := .info
  logger := Log.loggerName "client"
  text := "Running GA4 report on " ++ request.property ++ " (" ++
    toString report.dimensionNames.length ++ " dimensions, " ++
    toString report.metricNames.length ++ " metrics)"

/-- The client of a service that answers requests in wire form. A request that cannot be encoded is
not sent. -/
def ofService (service : Wire.Request → Except ClientFailure (List Wire.Row)) :
    ReportClient Wire.Request :=
  fun report =>
    match Wire.Request.ofReport report with
    | .error e => ⟨[], [], .error (.ofEncodeError e)⟩
    | .ok request =>
      ⟨[request], [runRecord report request], (service request).map (List.map Row.ofWire)⟩

end ReportClient

end ReportQuery
