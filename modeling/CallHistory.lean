import CallHistory.Call.Basic
import CallHistory.Call.Listeners
import CallHistory.Call.State
import CallHistory.Call.Watcher
import CallHistory.Digest.Sha1
import CallHistory.Json.Basic
import CallHistory.Json.Fields
import CallHistory.Json.Printer
import CallHistory.Json.Reader
import CallHistory.Json.Token
import CallHistory.Main
import CallHistory.Number.Binary64
import CallHistory.Phone.Emergency
import CallHistory.Phone.Handle
import CallHistory.Phone.Number
import CallHistory.Pipeline.Basic
import CallHistory.Record.Basic
import CallHistory.Record.Dispatch
import CallHistory.Record.Json
import CallHistory.Report.Basic
import CallHistory.Report.Directive
import CallHistory.Report.Event
import CallHistory.Report.Filter
import CallHistory.Report.Fingerprint
import CallHistory.Report.Pattern
import CallHistory.Report.Pattern.Atom
import CallHistory.Report.Pattern.Depth
import CallHistory.Report.Pattern.Group
import CallHistory.Report.Pattern.Members
import CallHistory.Report.Pattern.Mode
import CallHistory.Service.Basic
import CallHistory.Service.Demo
import CallHistory.Service.Program
import CallHistory.Settings.Address
import CallHistory.Settings.Basic
import CallHistory.Settings.Exact
import CallHistory.Settings.Json
import CallHistory.Settings.Layers
import CallHistory.Settings.Mask
import CallHistory.Settings.Moment
import CallHistory.Settings.Path
import CallHistory.Settings.Section
import CallHistory.Settings.Tree
import CallHistory.Store.Archive
import CallHistory.Store.Basic
import CallHistory.Store.Database
import CallHistory.Store.Disk
import CallHistory.Store.Error
import CallHistory.Store.Fault
import CallHistory.Store.File
import CallHistory.Store.Line
import CallHistory.Store.Memory
import CallHistory.Text.Blank
import CallHistory.Text.Bytes
import CallHistory.Text.Control
import CallHistory.Text.Decimal
import CallHistory.Text.Hex
import CallHistory.Text.Hidden
import CallHistory.Text.Letter
import CallHistory.Text.Numeric
import CallHistory.Text.Path
import CallHistory.Text.Quoted
import CallHistory.Text.Range
import CallHistory.Text.Search
import CallHistory.Time.Date
import CallHistory.Time.Instant
import CallHistory.Time.Stamp
import CallHistory.Toml.Basic
import CallHistory.Toml.Document
import CallHistory.Toml.Reader
import CallHistory.Toml.Scalar
import CallHistory.Toml.Text
import CallHistory.Uuid
import CallHistory.Writer.Basic
import CallHistory.Writer.Batch
import CallHistory.Writer.Queue
import CallHistory.Proofs.Calls.Handing
import CallHistory.Proofs.Calls.Interval
import CallHistory.Proofs.Calls.Ending
import CallHistory.Proofs.Store.Laws
import CallHistory.Proofs.Pool.Basic
import CallHistory.Proofs.Pool.Counts
import CallHistory.Proofs.Pool.Single
import CallHistory.Proofs.Pool.Rest
import CallHistory.Proofs.Pool.Interleaving
import CallHistory.Proofs.Pool.Agreement
import CallHistory.Proofs.Writer.Orders
import CallHistory.Proofs.Writer.Accounts
import CallHistory.Proofs.Pipeline.Trace
import CallHistory.Proofs.Pipeline.Accounts
import CallHistory.Proofs.Pipeline.Contents
import CallHistory.Proofs.Phone.Normalization
import CallHistory.Proofs.Pipeline.Offers
import CallHistory.Proofs.Pipeline.Screening
import CallHistory.Proofs.Pipeline.Isolation
import CallHistory.Proofs.Calls.FanOut
import CallHistory.Proofs.Pipeline.Policies
import CallHistory.Proofs.Text.Digits
import CallHistory.Proofs.Json.Roundtrip
import CallHistory.Proofs.Json.Members
import CallHistory.Proofs.Time.Roundtrip
import CallHistory.Proofs.Store.Disk
import CallHistory.Proofs.Store.Framing
import CallHistory.Proofs.Writer.Slots
import CallHistory.Proofs.Pipeline.Capacity
import CallHistory.Proofs.Pipeline.Replies
import CallHistory.Proofs.Writer.Giving
import CallHistory.Proofs.Pipeline.Stopping
import CallHistory.Proofs.Pool.Reporting
import CallHistory.Proofs.Report.Masking
import CallHistory.Proofs.Pool.Discretion
import CallHistory.Proofs.Pipeline.Rotas
import CallHistory.Proofs.Pipeline.Outlines
import CallHistory.Proofs.Pipeline.Anonymity
import CallHistory.Proofs.Calls.Course
import CallHistory.Proofs.Calls.Apart
import CallHistory.Proofs.Calls.LifeCycle
import CallHistory.Proofs.Calls.Answering
import CallHistory.Proofs.Pipeline.Orderings
import CallHistory.Proofs.Pipeline.Counters
import CallHistory.Proofs.Json.Leading
import CallHistory.Proofs.Store.Torn
import CallHistory.Proofs.Settings.Starting
import CallHistory.Proofs.Writer.Batches
import CallHistory.Proofs.Phone.Logged
import CallHistory.Proofs.Phone.Spelling
import CallHistory.Proofs.Report.Series
import CallHistory.Proofs.Writer.Progress
import CallHistory.Proofs.Calls.Listening
import CallHistory.Proofs.Text.Cutting
import CallHistory.Proofs.Phone.Grammar
import CallHistory.Proofs.Settings.Masking
import CallHistory.Proofs.Settings.Layering
import CallHistory.Proofs.Settings.Readers
import CallHistory.Proofs.Settings.Places
import CallHistory.Proofs.Settings.Overlay
import CallHistory.Proofs.Record.Roundtrip
import CallHistory.Proofs.Json.Grammar
import CallHistory.Proofs.Store.ByName
import CallHistory.Proofs.Time.Days
import CallHistory.Proofs.Time.Instants
import CallHistory.Proofs.Time.Texts
import CallHistory.Proofs.Store.Ids
import CallHistory.Proofs.Store.Canonical
import CallHistory.Proofs.Calls.Rounding
import CallHistory.Proofs.Record.Durations
import CallHistory.Proofs.Text.Offsets
import CallHistory.Proofs.Settings.Authority
