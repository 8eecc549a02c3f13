import EventRelay.Context.Basic
import EventRelay.Context.Key
import EventRelay.Context.Kind
import EventRelay.Decimal.Binary64
import EventRelay.Decimal.Layout
import EventRelay.Decimal.Reader
import EventRelay.Decimal.Shortest
import EventRelay.Dedup.Cache
import EventRelay.Dedup.Sha256
import EventRelay.Delivery.Courier
import EventRelay.Delivery.Exchange
import EventRelay.Delivery.Failure
import EventRelay.Delivery.Plan
import EventRelay.Delivery.Scripted
import EventRelay.Entries
import EventRelay.Http.Client
import EventRelay.Http.Message
import EventRelay.Http.Query
import EventRelay.Http.Token
import EventRelay.Instance
import EventRelay.Json.Basic
import EventRelay.Json.Equality
import EventRelay.Json.Fault
import EventRelay.Json.FlatText
import EventRelay.Json.Literal
import EventRelay.Json.Numeral
import EventRelay.Json.Parser
import EventRelay.Json.Path
import EventRelay.Json.Printer
import EventRelay.Launch.Basic
import EventRelay.Launch.Console
import EventRelay.Launch.Filter
import EventRelay.Launch.Pattern
import EventRelay.Log
import EventRelay.Main
import EventRelay.Panic.Payload
import EventRelay.Proofs.Dedup.Answers
import EventRelay.Proofs.Dedup.Contents
import EventRelay.Proofs.Delivery.Abandonment
import EventRelay.Proofs.Delivery.Backoff
import EventRelay.Proofs.Delivery.Records
import EventRelay.Proofs.Delivery.Schedule
import EventRelay.Proofs.Delivery.Separation
import EventRelay.Proofs.Json.Equality
import EventRelay.Proofs.Json.FlatText
import EventRelay.Proofs.Json.Path
import EventRelay.Proofs.Realm.Ancestry
import EventRelay.Proofs.Realm.Correlation
import EventRelay.Proofs.Realm.Isolation
import EventRelay.Proofs.Realm.Outline
import EventRelay.Proofs.Realm.Polls
import EventRelay.Proofs.Realm.Timing
import EventRelay.Proofs.Realm.Traces
import EventRelay.Proofs.Service.Bearing
import EventRelay.Proofs.Service.Decision
import EventRelay.Proofs.Service.Enrichment
import EventRelay.Proofs.Service.History
import EventRelay.Proofs.Service.Overlap
import EventRelay.Proofs.Service.Spans
import EventRelay.Proofs.Service.TimeLimit
import EventRelay.Proofs.Service.Undecided
import EventRelay.Proofs.Service.Undelivered
import EventRelay.Proofs.Settings.Independence
import EventRelay.Proofs.Settings.Loading
import EventRelay.Proofs.Settings.Override
import EventRelay.Proofs.Settings.RoundTrip
import EventRelay.Proofs.Tenant
import EventRelay.Proofs.Text.Truncation
import EventRelay.Realm.Basic
import EventRelay.Realm.Journal
import EventRelay.Realm.Panic
import EventRelay.Realm.Span
import EventRelay.Service.Basic
import EventRelay.Service.Drill
import EventRelay.Service.Guard
import EventRelay.Service.Health
import EventRelay.Service.Ingest
import EventRelay.Settings.Basic
import EventRelay.Settings.Document
import EventRelay.Settings.Draft
import EventRelay.Settings.Field
import EventRelay.Settings.FileError
import EventRelay.Settings.FileTree
import EventRelay.Settings.Load
import EventRelay.Settings.Node
import EventRelay.Settings.Overlay
import EventRelay.Settings.Variable
import EventRelay.Tenant
import EventRelay.Text.Blank
import EventRelay.Text.Hex
import EventRelay.Text.Number
import EventRelay.Text.Percent
import EventRelay.Text.Quoted
import EventRelay.Text.Utf8
import EventRelay.Text.Visible
import EventRelay.Time.Clock
import EventRelay.Time.Duration
import EventRelay.Time.Timestamp
import EventRelay.Unicode.CodePoints
import EventRelay.Unicode.CombiningClass
import EventRelay.Unicode.Composition
import EventRelay.Unicode.Direction
import EventRelay.Unicode.Joining
import EventRelay.Unicode.Letter
import EventRelay.Unicode.Mark
import EventRelay.Url.Basic
import EventRelay.Url.Host
import EventRelay.Url.Label
import EventRelay.Url.Name
import EventRelay.Url.NameChar
import EventRelay.Url.Parser
import EventRelay.Url.Punycode
import EventRelay.Uuid
