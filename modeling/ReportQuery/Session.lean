import ReportQuery.Connector

namespace ReportQuery

structure Session where
  connector : Connector
  rows : List Row
  failure : Option ClientFailure
  trace : Trace
  /-- The requests that reached the client, in order. -/
  sent : List Report

namespace Session

inductive Step where
  /-- The client answers with rows from now on. -/
  | rows (rows : List Row)
  /-- The client fails from now on. -/
  | failure (failure : ClientFailure)
  | scope (scope : Scope)
  | query (q : Query)
  | plan (q : Query)
  | explain (q : Query)

inductive Answer where
  | rowCount (n : Nat)
  | failure (failure : ClientFailure)
  | scope (scope : Scope)
  | queried (result : Except QueryError (List OutputRow))
  | planned (result : Except PlanError Report)
  | explained (result : Except PlanError Json)

def start (connector : Connector) (traceId : String) : Session :=
  ⟨connector, [], none, .fresh traceId, []⟩

def clientAnswer (s : Session) : Except ClientFailure (List Row) :=
  match s.failure with
  | some f => .error f
  | none => .ok s.rows

def step (s : Session) : Step → Session × Answer
  | .rows rows => ({ s with rows, failure := none }, .rowCount rows.length)
  | .failure f => ({ s with failure := some f }, .failure f)
  | .scope scope => ({ s with connector := { s.connector with scope } }, .scope scope)
  | .query q =>
    let run := s.connector.query (some (.inMemory s.clientAnswer)) q s.trace
    ({ s with trace := run.trace, sent := s.sent ++ run.sent }, .queried run.result)
  | .plan q => (s, .planned ((s.connector.plan q).map (·.report)))
  | .explain q => (s, .explained (s.connector.explain q))

def run (s : Session) : List Step → Session × List Answer
  | [] => (s, [])
  | step :: steps =>
    let (next, answer) := s.step step
    let (last, answers) := run next steps
    (last, answer :: answers)

end Session

end ReportQuery
