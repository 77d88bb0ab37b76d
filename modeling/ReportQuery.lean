import ReportQuery.CommandLine
import ReportQuery.Filter.Schema
import ReportQuery.Main
import ReportQuery.Meaning
import ReportQuery.PlainValue
import ReportQuery.Predicate.Dump
import ReportQuery.Predicate.Grammar
import ReportQuery.Query.Supported
import ReportQuery.Report.Decoding
import ReportQuery.Report.Schema
import ReportQuery.Session
import ReportQuery.Proofs.Connector.Environment
import ReportQuery.Proofs.Connector.Meaning
import ReportQuery.Proofs.Session.Scope
import ReportQuery.Proofs.Connector.Failures
import ReportQuery.Proofs.Connector.Sending
import ReportQuery.Proofs.Connector.Supported
import ReportQuery.Proofs.Connector.Audit
import ReportQuery.Proofs.Session.Requests
import ReportQuery.Proofs.Report.RoundTrip
import ReportQuery.Proofs.Connector.Defects
import ReportQuery.Proofs.Connector.Service
import ReportQuery.Proofs.Session.Trace
import ReportQuery.Proofs.Predicate.Acceptance
import ReportQuery.Proofs.Predicate.NormalForm
import ReportQuery.Proofs.Connector.Explanation
import ReportQuery.Proofs.Predicate.Verdicts
import ReportQuery.Proofs.Filter.Rulings
import ReportQuery.Proofs.Report.Projection
import ReportQuery.Proofs.Report.Columns
import ReportQuery.Proofs.Double.Units
import ReportQuery.Proofs.Double.Shortest
import ReportQuery.Proofs.Double.Text
import ReportQuery.Proofs.Text.Quoted
import ReportQuery.Proofs.Json.Literal
import ReportQuery.Proofs.Predicate.Targets
import ReportQuery.Proofs.Predicate.Reading
import ReportQuery.Proofs.DateRange.Days
import ReportQuery.Proofs.DateRange.Resolution
import ReportQuery.Proofs.Filter.Numbers
import ReportQuery.Proofs.CommandLine
