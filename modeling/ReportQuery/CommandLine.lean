import ReportQuery.Connector
import ReportQuery.Json.Writer
import ReportQuery.Query.Schema
import ReportQuery.Settings
import ReportQuery.Table
import ReportQuery.Text.Terminal

namespace ReportQuery.CommandLine

structure RequestFile where
  path : String
  text : Option String

/-- An error that no command expects. -/
inductive Crash where
  | logLevel (e : Log.UnknownLevel)
  | conversion (e : ConversionError)
  | client (f : ClientFailure)
  | noKeyFile (path : String)

def Crash.message : Crash → String
  | logLevel e => e.message
  | conversion e => e.message
  | client f => f.text
  | noKeyFile path => "[Errno 2] No such file or directory: " ++ Text.quoted path

inductive ClientAction where
  | built
  | ran (report : Report)
  | closed

structure Effect where
  exitCode : Nat
  out : String
  err : String
  crash : Option Crash
  log : List Log.Record
  client : List ClientAction

namespace Effect

def ofOutput (exitCode : Nat) (out : String) : Effect := ⟨exitCode, out, "", none, [], []⟩

def ofCrash (crash : Crash) : Effect := ⟨1, "", "", some crash, [], []⟩

def warn (text : String) (e : Effect) : Effect := { e with err := text ++ e.err }

def withLineFeeds (e : Effect) : Effect :=
  { e with out := Text.withLineFeeds e.out, err := Text.withLineFeeds e.err }

end Effect

/-- A text as it is printed: without control sequences, and with a line end. -/
def printed (text : String) : String := Text.withoutControls text ++ "\n"

/-- The places and messages of faults, below a line that counts them. -/
def faultReport (faults : List Schema.Fault) : String :=
  let count := toString faults.length ++ " validation error" ++
    (if faults.length = 1 then "" else "s")
  let step : Schema.Step → String
    | .key name => name
    | .index i => toString i
  let lines := faults.flatMap fun f =>
    [".".intercalate (f.path.map step), "  " ++ f.problem.message?.getD "Invalid JSON"]
  "Invalid query request: " ++ count ++ " for QueryRequest\n" ++ "\n".intercalate lines

def load (file : RequestFile) : Except String Query :=
  match file.text with
  | none => .error ("Request file not found: " ++ file.path)
  | some text =>
    match Query.ofText text with
    | .valid q => .ok q
    | .faulty faults => .error (faultReport faults)

def failureReport (f : Failure) : String :=
  let heading := printed ("Error (" ++ toString f.category.status ++ "): " ++ f.message)
  if f.details.isEmpty then heading else heading ++ printed (Json.obj f.details).indented

def Crash.ofPlanError? : PlanError → Option Crash
  | .conversion e => some (.conversion e)
  | _ => none

def Crash.ofQueryError? : QueryError → Option Crash
  | .rejected e => ofPlanError? e
  | .client f => some (.client f)
  | _ => none

def orElse (s other : String) : String := if s = "" then other else s

def domainWarning (s : Settings) : String :=
  printed ("Warning: GA4_DOMAIN is not set; the " ++ s.scopingDimension ++
    " scoping filter will match an empty value.")

def explain (s : Settings) (file : RequestFile) (propertyId : String) : Effect :=
  match load file with
  | .error message => .ofOutput 1 (printed message)
  | .ok q =>
    let connector : Connector :=
      ⟨orElse propertyId (orElse s.propertyId "<property_id>"), s.scope⟩
    let log := Connector.planLog (connector.plan q)
    let effect : Effect := match connector.explain q with
      | .ok shown => .ofOutput 0 (printed shown.indented)
      | .error e =>
        match e.failure? with
        | some f => .ofOutput 1 (failureReport f)
        | none => { Effect.ofOutput 1 "" with crash := Crash.ofPlanError? e }
    let effect := { effect with log }
    if s.domain = "" then effect.warn (domainWarning s) else effect

def notConfigured : String :=
  "GA4 not configured. Set GA4_PROPERTY_ID, GA4_DOMAIN and GA4_CREDENTIALS_FILE or a .env file.\n"

def rowsReport (rows : List OutputRow) : String :=
  printed ("Rows: " ++ toString rows.length) ++
    if Table.isEmpty rows then "" else printed (Table.preview rows)

def queryOutput (result : Except QueryError (List OutputRow)) : Nat × String × Option Crash :=
  match result with
  | .ok rows => (0, rowsReport rows, none)
  | .error e =>
    match e.failure? with
    | some f => (1, failureReport f, none)
    | none => (1, "", Crash.ofQueryError? e)

/-- Runs a query and prints the rows. The client is built from the key file and closed again
whatever happens in between. `time` is shown as the moment of the trace's events. -/
def query {Sent : Type} (s : Settings) (file : RequestFile) (showTrace : Bool)
    (connect : String → Except Crash (ReportClient Sent)) (traceId time : String) : Effect :=
  if !s.isConfigured then .ofOutput 1 notConfigured
  else match load file with
    | .error message => .ofOutput 1 (printed message)
    | .ok q =>
      match connect s.credentialsFile with
      | .error crash => .ofCrash crash
      | .ok client =>
        let run := Connector.query ⟨s.propertyId, s.scope⟩ (some client) q (.fresh traceId)
        let (exitCode, text, crash) := queryOutput run.result
        let summary := if showTrace && crash.isNone then run.trace.summary time else ""
        ⟨exitCode, summary ++ text, "", crash, run.log,
          .built :: run.handed.map .ran ++ [.closed]⟩

def withLogging (s : Settings) (command : Effect) : Effect :=
  match Log.Config.fresh.configure s.logLevel with
  | (_, .error e) => .ofCrash (.logLevel e)
  | (config, .ok ()) => { command with log := config.emitted command.log }

end ReportQuery.CommandLine
