import CallHistory.Call.Basic
import CallHistory.Record.Basic
import CallHistory.Report.Fingerprint
import CallHistory.Store.Error
import CallHistory.Text.Control
import CallHistory.Writer.Basic

/-! # Events

Everything the library reports is an event. An event has a level, a source, a message and named
fields; only the message and the values of the fields depend on whether numbers are shown in clear.
-/

namespace CallHistory.Report

/-- How much an event matters, the least first. -/
inductive Level where
  | trace
  | debug
  | info
  | warn
  | error
  deriving DecidableEq, Repr

namespace Level

def all : List Level := [trace, debug, info, warn, error]

def rank : Level → Nat
  | trace => 0
  | debug => 1
  | info => 2
  | warn => 3
  | error => 4

def name : Level → String
  | trace => "TRACE"
  | debug => "DEBUG"
  | info => "INFO"
  | warn => "WARN"
  | error => "ERROR"

end Level

inductive Event where
  -- following calls
  | listenerRegistered (total : Nat)
  | callMoved (call : Uuid) (left entered : CallState)
  -- choosing what enters the history
  | numberChosen (number : Option String)
  | emergencyCall
  | recordOffered (record : Record)
  | notQueued (cause : SubmitError)
  | crashed (transition : Transition)
  -- writing
  | writerStarted (workers capacity : Nat)
  | workerRunning (worker : Nat)
  | workerExiting (worker : Nat)
  | workerLost (worker : Nat)
  | writerStopped (stats : WriterStats)
  | queueFull (records : Nat)
  | writeMoved (left entered : WriteState)
  | entryWritten (entry : EntryId)
  | writeRefused (cause : StoreError)
  | storeCrashed
  | writeFailed
  -- storing
  | memoryChosen
  | fileChosen (path : String)
  | databaseChosen
  | entryStored (entry : EntryId) (total : Nat)
  | entryAppended (entry : EntryId) (path : String)
  | poolOpening
  | poolAddress (masked : String)
  | poolSize (connections : Nat)
  | poolOpened
  | migrating
  | migrated
  | entryInserting (id : Uuid)
  | entryInserted (id : Uuid)
  | insertFailed (text : String)
  -- the service
  | serviceStarting
  | settingsLoaded (description : String)
  | metricsListening (address : String)
  | demoStarted
  | demoCompleted
  | serviceStopped
  deriving DecidableEq

namespace Event

def level : Event → Level
  | writeMoved .. => .trace
  | callMoved .. | numberChosen _ | emergencyCall | recordOffered _ | workerRunning _
  | workerExiting _ | entryWritten _ | entryStored .. | entryAppended .. | entryInserting _
  | entryInserted _ => .debug
  | notQueued _ | queueFull _ | writeFailed => .warn
  | crashed _ | workerLost _ | writeRefused _ | storeCrashed | insertFailed _ => .error
  | _ => .info

def source : Event → String
  | listenerRegistered _ | callMoved .. => "calllog::application::calls_manager"
  | numberChosen _ | emergencyCall | recordOffered _ | notQueued _ | crashed _ =>
    "calllog::application::call_log_manager"
  | writerStarted .. | workerRunning _ | workerExiting _ | workerLost _ | writerStopped _
  | queueFull _ | writeMoved .. | entryWritten _ | writeRefused _ | storeCrashed | writeFailed =>
    "calllog::application::log_writer"
  | memoryChosen | fileChosen _ | databaseChosen => "calllog::infrastructure::persistence"
  | entryStored .. => "calllog::infrastructure::persistence::memory"
  | entryAppended .. => "calllog::infrastructure::persistence::file"
  | poolOpening | poolAddress _ | poolSize _ | poolOpened | migrating | migrated =>
    "calllog::infrastructure::persistence::database"
  | entryInserting _ | entryInserted _ | insertFailed _ =>
    "calllog::infrastructure::persistence::call_log_repository"
  | metricsListening _ => "calllog::infrastructure::metrics"
  | serviceStarting | settingsLoaded _ | demoStarted | demoCompleted | serviceStopped => "calllog"

private def num (n : Nat) : String := .ofList (Text.Decimal.ofNat n)

private def int (n : Int64) : String := .ofList (Text.Decimal.ofInt n.toInt)

private def uuid (u : Uuid) : String := .ofList u.text

def message (reveal : Bool) : Event → String
  | listenerRegistered n => "Registered calls manager listener (" ++ num n ++ " total)"
  | callMoved c s t => "Call " ++ uuid c ++ " state " ++ s.label ++ " -> " ++ t.label
  | numberChosen n => "logNumber set to: " ++ shown reveal n
  | emergencyCall => "Not adding emergency call to call log."
  | recordOffered _ => "Logging call log entry"
  | notQueued _ => "Call log entry not queued"
  | crashed t => "Call log manager panicked handling " ++ t.describe
  | writerStarted w c =>
    "Call log writer started with " ++ num w ++ " worker(s), queue capacity " ++ num c
  | workerRunning w => "Call log worker " ++ num w ++ " running"
  | workerExiting w => "Call log worker " ++ num w ++ " exiting"
  | workerLost w => "Call log worker terminated abnormally: task " ++ num w ++ " was cancelled"
  | writerStopped _ => "Call log writer stopped"
  | queueFull n => "Call log queue full, dropping " ++ num n ++ " record(s)"
  | writeMoved .. => "Call log write state changed"
  | entryWritten e => "Call log entry written: " ++ e.text
  | writeRefused _ => "Exception raised during adding call log entry"
  | storeCrashed => "Call log store panicked while adding entry"
  | writeFailed => "Failed to write call to the log"
  | memoryChosen => "Using in-memory call log store"
  | fileChosen path => "Using call log file " ++ path
  | databaseChosen => "Using PostgreSQL call log store"
  | entryStored e n => "Stored call log entry " ++ e.text ++ " (" ++ num n ++ " total)"
  | entryAppended e path => "Appended call log entry " ++ e.text ++ " to " ++ path
  | poolOpening => "Creating database connection pool"
  | poolAddress url => "Database URL: " ++ url
  | poolSize n => "Max connections: " ++ num n
  | poolOpened => "Database connection pool created successfully"
  | migrating => "Running database migrations"
  | migrated => "Database migrations completed successfully"
  | entryInserting u => "Inserting call log entry " ++ uuid u
  | entryInserted u => "Call log entry inserted: " ++ uuid u
  | insertFailed text => "Failed to insert call log entry: " ++ text
  | serviceStarting => "Starting call log service"
  | settingsLoaded s => "Configuration loaded: " ++ s
  | metricsListening a => "Prometheus metrics listening on " ++ a
  | demoStarted => "=== Call Lifecycle Demo ==="
  | demoCompleted => "=== Call Lifecycle Demo Complete ==="
  | serviceStopped => "Call log service stopped"

def fields (reveal : Bool) : Event → List (String × String)
  | recordOffered r => [
    ("number", shown reveal r.number), ("presentation", r.presentation.title),
    ("call_type", "\"" ++ r.kind.key ++ "\""), ("start", int r.start),
    ("duration", int r.duration)]
  | notQueued e => [("error", e.message)]
  | writerStopped s => [
    ("submitted", num s.submitted.toNat), ("persisted", num s.persisted.toNat),
    ("failed", num s.failed.toNat), ("dropped", num s.dropped.toNat)]
  | writeMoved s t => [("from", s.title), ("to", t.title)]
  | writeRefused e => [("error", e.message)]
  | _ => []

/-- Whether an event has a field. The message counts as one. -/
def hasField (e : Event) (name : List Char) : Bool :=
  ("message" :: (e.fields false).map Prod.fst).any (·.toList = name)

def fieldText (reveal : Bool) (e : Event) : String :=
  String.join ((e.fields reveal).map fun f => " " ++ f.1 ++ "=" ++ f.2)

def line (reveal : Bool) (e : Event) : String :=
  e.level.name ++ " " ++ e.message reveal ++ e.fieldText reveal

/-- A line of a report for a terminal: it names its source, and its message steers no terminal. -/
def terminalLine (reveal : Bool) (e : Event) : String :=
  e.level.name ++ " " ++ e.source ++ ": "
    ++ .ofList (Text.Control.text (e.message reveal).toList) ++ e.fieldText reveal

end Event
end CallHistory.Report
