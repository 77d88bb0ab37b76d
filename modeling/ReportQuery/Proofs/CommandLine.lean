import ReportQuery.Attempts
import ReportQuery.CommandLine
import ReportQuery.Proofs.Connector.Plan
import ReportQuery.Proofs.Connector.Run
import ReportQuery.Proofs.Text.Terminal

namespace ReportQuery.CommandLine

variable {Sent : Type} {s : Settings} {file : RequestFile} {showTrace : Bool}
  {connect : String → Except Crash (ReportClient Sent)} {client : ReportClient Sent}
  {traceId time : String} {q : Query}

/-- Whether a command gets as far as running a query: it is configured, and its file has it. -/
def Runs (s : Settings) (file : RequestFile) (q : Query) : Prop :=
  s.isConfigured ∧ ∃ text, file.text = some text ∧ Query.ofText text = .valid q

/-- The lives that a client may have: once it is built, it runs at most one report, and it is closed
once, at the end. -/
inductive Lifetime : List ClientAction → Prop where
  | none : Lifetime []
  | idle : Lifetime [.built, .closed]
  | busy {report : Report} : Lifetime [.built, .ran report, .closed]

/-- What is told of the result of a query, after a summary: the number of its rows and a preview, or
the status and the message of its failure with the details, or nothing but that it crashed. -/
inductive Tells (summary : String) : Except QueryError (List OutputRow) → Effect → Prop where
  | rows {rows : List OutputRow} {preview : String} {effect : Effect} :
    preview = (if Table.isEmpty rows then "" else printed (Table.preview rows)) →
      effect.out = summary ++ ("Rows: " ++ toString rows.length ++ "\n" ++ preview) →
      effect.exitCode = 0 → effect.crash = none → Tells summary (.ok rows) effect
  | failure {e : QueryError} {f : Failure} {shown details : String} {effect : Effect} :
    e.failure? = some f → shown = Text.withoutControls f.message →
      (shown = f.message ↔ Text.IsPlain f.message.toList) →
      details = (if f.details.isEmpty then "" else printed (Json.obj f.details).indented) →
      effect.out = summary ++
        ("Error (" ++ toString f.category.status ++ "): " ++ shown ++ "\n" ++ details) →
      effect.exitCode = 1 → effect.crash = none → Tells summary (.error e) effect
  | crash {e : QueryError} {crash : Crash} {effect : Effect} :
    e.failure? = none → effect.out = "" → effect.exitCode = 1 → effect.crash = some crash →
      Tells summary (.error e) effect

section Printing

variable {front text : String}

theorem escape_not_mem_digits (n : Nat) : '\x1b' ∉ (toString n).toList := by
  rw [Nat.toString_eq_repr, Nat.toList_repr]
  intro h
  cases Nat.isDigit_of_mem_toDigits (by decide) (by decide) h

theorem printed_append (h : '\x1b' ∉ front.toList) :
    printed (front ++ text) = front ++ Text.withoutControls text ++ "\n" := by
  rw [printed, Text.withoutControls_append h]

theorem rowsReport_eq (rows : List OutputRow) :
    rowsReport rows = "Rows: " ++ toString rows.length ++ "\n" ++
      if Table.isEmpty rows then "" else printed (Table.preview rows) := by
  have hescape : '\x1b' ∉ ("Rows: " ++ toString rows.length).toList := by
    rw [String.toList_append, List.mem_append, not_or]
    exact ⟨by decide, escape_not_mem_digits _⟩
  rw [rowsReport, printed, Text.withoutControls_of_not_mem hescape]

theorem failureReport_eq (f : Failure) :
    failureReport f = "Error (" ++ toString f.category.status ++ "): " ++
      Text.withoutControls f.message ++ "\n" ++
      if f.details.isEmpty then "" else printed (Json.obj f.details).indented := by
  have hescape : '\x1b' ∉ ("Error (" ++ toString f.category.status ++ "): ").toList := by
    rw [String.toList_append, String.toList_append, List.mem_append, List.mem_append, not_or,
      not_or]
    exact ⟨⟨by decide, escape_not_mem_digits _⟩, by decide⟩
  rw [failureReport, printed_append hescape]
  split
  · rw [String.append_empty]
  · rfl

end Printing

section Stages

theorem load_eq_ok_iff :
    load file = .ok q ↔ ∃ text, file.text = some text ∧ Query.ofText text = .valid q := by
  cases htext : file.text with
  | none => simp [load, htext]
  | some text => cases hq : Query.ofText text <;> simp [load, htext, hq]

theorem Runs.unique {q' : Query} (h : Runs s file q) (h' : Runs s file q') : q = q' := by
  have hload := load_eq_ok_iff.mpr h.2
  rw [load_eq_ok_iff.mpr h'.2] at hload
  exact (Except.ok.inj hload).symm

theorem Runs.exists_and_iff {p : Query → Prop} (h : Runs s file q) :
    (∃ q', Runs s file q' ∧ p q') ↔ p q := by
  constructor
  · rintro ⟨q', h', hp⟩
    rwa [h'.unique h] at hp
  · intro hp
    exact ⟨q, h, hp⟩

theorem query_of_not_runs (h : ∀ q, ¬ Runs s file q) :
    ∃ text, query s file showTrace connect traceId time = .ofOutput 1 text := by
  rw [query]
  by_cases hs : s.isConfigured
  · rw [hs, Bool.not_true, if_neg Bool.false_ne_true]
    cases hload : load file with
    | error message => exact ⟨_, rfl⟩
    | ok q => exact absurd ⟨hs, load_eq_ok_iff.mp hload⟩ (h q)
  · rw [Bool.not_eq_true] at hs
    rw [hs]
    exact ⟨_, rfl⟩

theorem query_of_runs (h : Runs s file q) (hc : connect s.credentialsFile = .ok client) :
    let run := Connector.query ⟨s.propertyId, s.scope⟩ (some client) q (.fresh traceId)
    let shown := queryOutput run.result
    query s file showTrace connect traceId time =
      ⟨shown.1,
        (if showTrace && shown.2.2.isNone then run.trace.summary time else "") ++ shown.2.1, "",
        shown.2.2, run.log, .built :: run.handed.map .ran ++ [.closed]⟩ := by
  rw [query, h.1, Bool.not_true, if_neg Bool.false_ne_true, load_eq_ok_iff.mpr h.2]
  simp only [hc]

theorem withLogging_of_level {l : Log.Level} (h : Log.Level.ofName s.logLevel = .ok l)
    (command : Effect) : ∃ log, withLogging s command = { command with log } := by
  simp only [withLogging, Log.Config.configure, h]
  exact ⟨_, rfl⟩

end Stages

section Results

variable {result : Except QueryError (List OutputRow)}

theorem exists_crash_of_failure?_eq_none {e : QueryError} (h : e.failure? = none) :
    ∃ crash, Crash.ofQueryError? e = some crash := by
  cases e with
  | rejected e =>
    cases e with
    | conversion e => exact ⟨_, rfl⟩
    | defects list => cases h
    | unsupportedDate e => cases h
  | client f => exact ⟨_, rfl⟩
  | noClient => cases h
  | service f property => cases h
  | badResponse e => cases h

theorem tells_queryOutput (result : Except QueryError (List OutputRow)) (showTrace : Bool)
    (summary : String) (log : List Log.Record) (actions : List ClientAction) :
    Tells (if showTrace then summary else "") result
      ⟨(queryOutput result).1,
        (if showTrace && (queryOutput result).2.2.isNone then summary else "") ++
          (queryOutput result).2.1, "", (queryOutput result).2.2, log, actions⟩ := by
  cases result with
  | ok rows =>
    apply Tells.rows rfl _ rfl rfl
    simp only [queryOutput, rowsReport_eq, Option.isNone_none, Bool.and_true]
  | error e =>
    cases hf : e.failure? with
    | some f =>
      have houtput : queryOutput (.error e) = (1, failureReport f, none) := by
        simp only [queryOutput, hf]
      rw [houtput]
      apply Tells.failure hf rfl Text.withoutControls_eq_self_iff rfl _ rfl rfl
      simp only [failureReport_eq, Option.isNone_none, Bool.and_true]
    | none =>
      obtain ⟨crash, hcrash⟩ := exists_crash_of_failure?_eq_none hf
      have houtput : queryOutput (.error e) = (1, "", some crash) := by
        simp only [queryOutput, hf, hcrash]
      rw [houtput]
      apply Tells.crash hf _ rfl rfl
      simp only [Option.isNone_some, Bool.and_false, if_neg Bool.false_ne_true]
      rfl

theorem Tells.exitCode_eq_zero_iff {summary : String} {effect : Effect}
    (h : Tells summary result effect) : effect.exitCode = 0 ↔ ∃ rows, result = .ok rows := by
  cases h with
  | rows _ _ hexit _ => exact iff_of_true hexit ⟨_, rfl⟩
  | failure _ _ _ _ _ hexit _ => exact iff_of_false (by rw [hexit]; decide) nofun
  | crash _ _ hexit _ => exact iff_of_false (by rw [hexit]; decide) nofun

end Results

theorem lifetime_of_query (c : Connector) (client : ReportClient Sent) (q : Query) (trace : Trace) :
    Lifetime (.built :: (c.query (some client) q trace).handed.map .ran ++ [.closed]) := by
  cases hp : c.plan q with
  | error e =>
    rw [Connector.query_of_rejected hp]
    exact .idle
  | ok p =>
    obtain ⟨requesting, failed, hq, -⟩ := Connector.query_of_plan client trace hp
    rw [hq]
    exact .busy

/-- The command releases its client, and its exit code and its output are true of the query. A
client is built exactly if a query is run; it runs at most one report, and is closed once after
that. The exit code is zero exactly if the query has rows. -/
theorem query_truthful (s : Settings) (file : RequestFile) (showTrace : Bool)
    (client : ReportClient Sent) (traceId time : String)
    (hlevel : ∃ l, Log.Level.ofName s.logLevel = .ok l) :
    let effect := withLogging s (query s file showTrace (fun _ => .ok client) traceId time)
    let run (q : Query) :=
      Connector.query ⟨s.propertyId, s.scope⟩ (some client) q (.fresh traceId)
    (.built ∈ effect.client ↔ ∃ q, Runs s file q) ∧
    Lifetime effect.client ∧
    (effect.exitCode = 0 ↔ ∃ q, Runs s file q ∧ ∃ rows, (run q).result = .ok rows) ∧
    ∀ q, Runs s file q →
      effect.client = .built :: (run q).handed.map .ran ++ [.closed] ∧
      Tells (if showTrace then (run q).trace.summary time else "") (run q).result effect := by
  intro effect run
  obtain ⟨l, hl⟩ := hlevel
  obtain ⟨log, hlog⟩ :=
    withLogging_of_level hl (query s file showTrace (fun _ => .ok client) traceId time)
  have heffect : effect = _ := hlog
  by_cases hruns : ∃ q, Runs s file q
  · obtain ⟨q, hq⟩ := hruns
    rw [query_of_runs hq rfl] at heffect
    have hclient : effect.client = .built :: (run q).handed.map .ran ++ [.closed] := by
      rw [heffect]
    have htells : Tells (if showTrace then (run q).trace.summary time else "") (run q).result
        effect := by
      rw [heffect]
      exact tells_queryOutput (run q).result showTrace _ log _
    refine ⟨iff_of_true ?_ ⟨q, hq⟩, ?_, ?_, ?_⟩
    · rw [hclient]
      exact List.mem_cons_self
    · rw [hclient]
      exact lifetime_of_query _ client q _
    · rw [htells.exitCode_eq_zero_iff, hq.exists_and_iff]
    · intro q' hq'
      rw [hq'.unique hq]
      exact ⟨hclient, htells⟩
  · obtain ⟨text, hquery⟩ := query_of_not_runs fun q hq => hruns ⟨q, hq⟩
    rw [hquery] at heffect
    rw [heffect]
    refine ⟨iff_of_false nofun hruns, .none, iff_of_false nofun ?_, ?_⟩
    · rintro ⟨q, hq, -⟩
      exact hruns ⟨q, hq⟩
    · intro q hq
      exact absurd ⟨q, hq⟩ hruns

def shopSettings : Settings where
  propertyId := "123"
  domain := "shop.example.com"
  credentialsFile := "key.json"
  scopingDimension := Scope.defaultDimension
  logLevel := "INFO"

def emptyQuery : Query where
  fields := []
  predicate := none
  limit := none
  dates := none
  nodup_fields := List.nodup_nil

def emptyFile : RequestFile := ⟨"request.json", some "\x7b\x7d"⟩

theorem runs_emptyFile : Runs shopSettings emptyFile emptyQuery := ⟨rfl, _, rfl, rfl⟩

def visitsByLand : Query where
  fields := [("visits", "metric_sessions"), ("land", "dimension_country")]
  predicate := none
  limit := none
  dates := none
  nodup_fields := by decide

def visitsFile : RequestFile where
  path := "request.json"
  text := some
    ("\x7b\"fields\": " ++
      "\x7b\"visits\": \x7b\"type\": \"column\", \"column\": \"metric_sessions\"\x7d, " ++
      "\"land\": \x7b\"type\": \"column\", \"column\": \"dimension_country\"\x7d\x7d\x7d")

theorem load_visitsFile : load visitsFile = .ok visitsByLand := by
  let parts (q : Query) := (q.fields, q.predicate.isNone, q.limit, q.dates.isNone)
  have hparts : (load visitsFile).toOption.map parts = some (parts visitsByLand) := by
    decide +kernel
  obtain ⟨⟨fields, predicate, limit, dates, hnodup⟩, hload, hq⟩ := Option.map_eq_some_iff.mp hparts
  simp only [parts, visitsByLand, Prod.mk.injEq, Option.isNone_iff_eq_none,
    Option.isNone_none] at hq
  obtain ⟨rfl, rfl, rfl, rfl⟩ := hq
  exact eq_ok_of_toOption hload

theorem exists_plan_visitsByLand :
    ∃ p, Connector.plan ⟨shopSettings.propertyId, shopSettings.scope⟩ visitsByLand = .ok p ∧
      p.report.path = "properties/123" := by
  obtain ⟨p, hp⟩ : ∃ p, Connector.plan ⟨shopSettings.propertyId, shopSettings.scope⟩ visitsByLand =
      .ok p := exists_eq_ok_of_isOk (by decide +kernel)
  refine ⟨p, hp, ?_⟩
  obtain ⟨_, _, _, -, -, -, rfl⟩ := Connector.plan_eq_ok_iff.mp hp
  rfl

theorem runs_visitsFile : Runs shopSettings visitsFile visitsByLand :=
  ⟨rfl, load_eq_ok_iff.mp load_visitsFile⟩

theorem query_truthful_visitsFile :
    let rows : List Row :=
      [⟨[some "US", some "shop.example.com"], [some "12"]⟩, ⟨[some ""], [some "3"]⟩]
    let mapped : List OutputRow :=
      [[("land", some "US"), ("visits", some "12")], [("land", none), ("visits", some "3")]]
    let effect (client : ReportClient Report) (showTrace : Bool) := withLogging shopSettings
      (query shopSettings visitsFile showTrace (fun _ => .ok client) "trace" "now")
    let run (client : ReportClient Report) :=
      Connector.query ⟨shopSettings.propertyId, shopSettings.scope⟩ (some client) visitsByLand
        (.fresh "trace")
    let served := ReportClient.inMemory (.ok rows)
    let failing := ReportClient.inMemory (.error ⟨.tooManyRequests, "quota", none⟩)
    (∃ l, Log.Level.ofName shopSettings.logLevel = .ok l) ∧
    Runs shopSettings visitsFile visitsByLand ∧
    (.built ∈ (effect served true).client ∧ Lifetime (effect served true).client ∧
      (∃ report, (effect served true).client = [.built, .ran report, .closed]) ∧
      (effect served true).exitCode = 0 ∧
      Tells ((run served).trace.summary "now") (.ok mapped) (effect served true)) ∧
    .built ∈ (effect failing false).client ∧ Lifetime (effect failing false).client ∧
      (∃ report, (effect failing false).client = [.built, .ran report, .closed]) ∧
      (effect failing false).exitCode = 1 ∧
      (effect failing false).out =
        "Error (502): GA4 report call failed: 429 quota\n" ++
          "\x7b\n  \"property\": \"properties/123\"\n\x7d\n" := by
  intro rows mapped effect run served failing
  have hlevel : ∃ l, Log.Level.ofName shopSettings.logLevel = .ok l := ⟨.info, rfl⟩
  obtain ⟨p, hp, hpath⟩ := exists_plan_visitsByLand
  have hhanded (client : ReportClient Report) : (run client).handed = [p.report] :=
    Connector.query_handed_of_plan hp
  have hmapped : (run served).result = .ok mapped := eq_ok_of_toOption (by decide +kernel)
  have hfailed : (run failing).result =
      .error (.service ⟨.tooManyRequests, "quota", none⟩ p.report.path) :=
    Connector.query_result_of_plan hp
  obtain ⟨hbuilt, hlifetime, hexit, hruns⟩ :=
    query_truthful shopSettings visitsFile true served "trace" "now" hlevel
  obtain ⟨hclient, htells⟩ := hruns _ runs_visitsFile
  obtain ⟨hbuilt', hlifetime', -, hruns'⟩ :=
    query_truthful shopSettings visitsFile false failing "trace" "now" hlevel
  obtain ⟨hclient', htells'⟩ := hruns' _ runs_visitsFile
  have htold : Tells ((run served).trace.summary "now") (run served).result (effect served true) :=
    htells
  rw [hmapped] at htold
  have htold' : Tells "" (run failing).result (effect failing false) := htells'
  rw [hfailed, hpath] at htold'
  refine ⟨hlevel, runs_visitsFile,
    ⟨hbuilt.mpr ⟨_, runs_visitsFile⟩, hlifetime, ⟨p.report, hclient.trans ?_⟩,
      hexit.mpr ⟨_, runs_visitsFile, _, hmapped⟩, htold⟩,
    hbuilt'.mpr ⟨_, runs_visitsFile⟩, hlifetime', ⟨p.report, hclient'.trans ?_⟩, ?_⟩
  · exact congrArg (fun reports => _ :: List.map _ reports ++ _) (hhanded served)
  · exact congrArg (fun reports => _ :: List.map _ reports ++ _) (hhanded failing)
  · cases htold' with
    | failure hfailure hshown hplain hdetails hout hcode hcrash =>
      obtain rfl := Option.some.inj hfailure
      rw [hshown, hdetails] at hout
      exact ⟨hcode, hout.trans (by decide +kernel)⟩
    | crash hnone => cases hnone

/-- A message in colour is printed without the colour. -/
theorem query_strips_message :
    let client := ReportClient.inMemory (.error ⟨.refresh, "\x1b[31mkey\x1b[0m", none⟩)
    let effect := withLogging shopSettings
      (query shopSettings emptyFile false (fun _ => .ok client) "trace" "now")
    let run := Connector.query ⟨shopSettings.propertyId, shopSettings.scope⟩ (some client)
      emptyQuery (.fresh "trace")
    Log.Level.ofName shopSettings.logLevel = .ok .info ∧ Runs shopSettings emptyFile emptyQuery ∧
    ∃ e f, run.result = .error e ∧ e.failure? = some f ∧
      ¬ f.message.toList <:+: effect.out.toList := by
  intro client effect run
  refine ⟨rfl, runs_emptyFile, _, _, rfl, rfl, ?_⟩
  intro h
  have hescape : '\x1b' ∈ effect.out.toList := h.subset (by decide +kernel)
  exact absurd hescape (by decide +kernel)

end ReportQuery.CommandLine
