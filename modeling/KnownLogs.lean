import KnownLogs.Bytes.Base64
import KnownLogs.Bytes.Hex
import KnownLogs.Bytes.Sha256
import KnownLogs.Bytes.Utf8
import KnownLogs.Call
import KnownLogs.Cron
import KnownLogs.Dialogue
import KnownLogs.Enumeration
import KnownLogs.Execution
import KnownLogs.Fault
import KnownLogs.Files.Source
import KnownLogs.Files.Pathname
import KnownLogs.Files.Problem
import KnownLogs.Files.Tree
import KnownLogs.Json.Basic
import KnownLogs.Json.Binary64
import KnownLogs.Json.Reader
import KnownLogs.Json.Writer
import KnownLogs.Launch
import KnownLogs.Level
import KnownLogs.Log.Creation
import KnownLogs.Log.Document
import KnownLogs.Log.Entry
import KnownLogs.Log.Interval
import KnownLogs.Log.Status
import KnownLogs.LogList.Published
import KnownLogs.LogList.Publishing
import KnownLogs.LogList.Reading
import KnownLogs.Main
import KnownLogs.Outcome.Basic
import KnownLogs.Outcome.Expectation
import KnownLogs.Outcome.Failure
import KnownLogs.Policy.Evidence
import KnownLogs.Policy.Freshness
import KnownLogs.Policy.Parameters
import KnownLogs.PublicKey.Decoder
import KnownLogs.PublicKey.Der
import KnownLogs.Refresh.Scheduler
import KnownLogs.Trace
import KnownLogs.Schema.Field
import KnownLogs.Schema.Integer
import KnownLogs.Schema.Issue
import KnownLogs.Service.Endpoint
import KnownLogs.Service.Lifespan
import KnownLogs.Service.Response
import KnownLogs.Service.Route
import KnownLogs.Settings.Basic
import KnownLogs.Settings.Loading
import KnownLogs.Settings.VariableFile
import KnownLogs.Settings.Variables
import KnownLogs.Store.Basic
import KnownLogs.Store.Crowd
import KnownLogs.Store.Gate
import KnownLogs.Store.Query
import KnownLogs.Store.Reload
import KnownLogs.Store.State
import KnownLogs.Text.Basic
import KnownLogs.Text.Quoted
import KnownLogs.Text.Printable
import KnownLogs.Value
import KnownLogs.Proofs.Store.Attempt
import KnownLogs.Proofs.Store.Gate
import KnownLogs.Proofs.Store.History
import KnownLogs.Proofs.LogList.Parsing
import KnownLogs.Proofs.Store.Recorded
import KnownLogs.Proofs.Log.Interval
import KnownLogs.Proofs.Log.Index
import KnownLogs.Proofs.Store.Authenticity
import KnownLogs.Proofs.Json.Strict
import KnownLogs.Proofs.Json.Binary64
import KnownLogs.Proofs.Schema.Numeral
import KnownLogs.Proofs.Schema.Reading
import KnownLogs.Proofs.LogList.Format
import KnownLogs.Proofs.LogList.Acceptance
import KnownLogs.Proofs.Store.Spacing
import KnownLogs.Proofs.Store.Staleness
import KnownLogs.Proofs.Store.Reentry
import KnownLogs.Proofs.LogList.Faults
import KnownLogs.Proofs.Store.Journal
import KnownLogs.Proofs.Store.Alike
import KnownLogs.Proofs.Store.Containment
import KnownLogs.Proofs.Bytes.Utf8
import KnownLogs.Proofs.Bytes.Base64
import KnownLogs.Proofs.Bytes.Hex
import KnownLogs.Proofs.Json.Grammar
import KnownLogs.Proofs.Json.Completeness
import KnownLogs.Proofs.LogList.Truncation
import KnownLogs.Proofs.LogList.RoundTrip
import KnownLogs.Proofs.LogList.Decoding
import KnownLogs.Proofs.LogList.Variation
import KnownLogs.Proofs.Policy.Freshness
import KnownLogs.Proofs.Store.Ageing
import KnownLogs.Proofs.Service.State
import KnownLogs.Proofs.Service.Lookup
import KnownLogs.Proofs.Store.Checked
import KnownLogs.Proofs.Service.Readiness
import KnownLogs.Proofs.Outcome.Pipeline
import KnownLogs.Proofs.Store.Calls
import KnownLogs.Proofs.Log.Repeats
import KnownLogs.Proofs.Policy.Evidence
import KnownLogs.Proofs.Policy.MoreEvidence
import KnownLogs.Proofs.Policy.Lifetime
import KnownLogs.Proofs.Settings.Building
import KnownLogs.Proofs.Store.Reader
import KnownLogs.Proofs.Store.Crowd
import KnownLogs.Proofs.Store.Interleaving
import KnownLogs.Proofs.Execution.Stack
import KnownLogs.Proofs.Refresh.Job
