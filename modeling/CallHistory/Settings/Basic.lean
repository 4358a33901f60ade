import CallHistory.Phone.Emergency
import CallHistory.Record.Basic
import CallHistory.Settings.Address
import CallHistory.Settings.Mask
import CallHistory.Text.Decimal
import CallHistory.Text.Path
import CallHistory.Text.Quoted

/-! # Settings

What can be set about the service, the values it has when nothing is set, and the conditions under
which the writer has something to work with. A description shows all settings but the password of
the database.
-/

namespace CallHistory

inductive StoreKind where
  | memory
  | file
  | postgres
  deriving DecidableEq, Repr, Inhabited

namespace StoreKind

def all : List StoreKind := [memory, file, postgres]

def key : StoreKind → String
  | memory => "memory"
  | file => "file"
  | postgres => "postgres"

def ofKey? (s : String) : Option StoreKind :=
  all.find? (·.key = s)

def title : StoreKind → String
  | memory => "Memory"
  | file => "File"
  | postgres => "Postgres"

end StoreKind

structure HistorySettings where
  allowEmergency : Bool := false
  emergency : List String := Phone.EmergencyNumbers.standardList
  deriving DecidableEq, Repr, Inhabited

structure WriterSettings where
  workers : UInt64 := 2
  capacity : UInt64 := 256
  deriving DecidableEq, Repr, Inhabited

structure StoreSettings where
  kind : StoreKind := .memory
  path : String := "calllog.jsonl"
  url : String := "postgres://postgres@localhost/calllog"
  connections : UInt32 := 5
  deriving DecidableEq, Repr, Inhabited

structure LoggingSettings where
  filter : String := "info"
  /-- Whether numbers are shown in clear. -/
  reveal : Bool := false
  deriving DecidableEq, Repr, Inhabited

structure MetricsSettings where
  listen : Option Address := none
  deriving DecidableEq, Repr, Inhabited

structure Settings where
  history : HistorySettings := {}
  writer : WriterSettings := {}
  store : StoreSettings := {}
  logging : LoggingSettings := {}
  metrics : MetricsSettings := {}
  deriving DecidableEq, Repr, Inhabited

namespace HistorySettings

def policy (h : HistorySettings) : Policy := ⟨h.allowEmergency⟩

def numbers (h : HistorySettings) : Phone.EmergencyNumbers := .ofList h.emergency

end HistorySettings

namespace Settings

/-- Whether settings are those that hold when nothing is set. Their path may be spelled in another
way. -/
def isUnset (s : Settings) : Bool :=
  let unset : Settings := {}
  Text.Path.same s.store.path.toList unset.store.path.toList
    && { s with store := { s.store with path := unset.store.path } } = unset

inductive Fault where
  | noWorkers
  | noCapacity
  deriving DecidableEq, Repr

def Fault.message : Fault → String
  | noWorkers => "Invalid configuration: writer.workers must be at least 1"
  | noCapacity => "Invalid configuration: writer.queue_capacity must be at least 1"

/-- Accepts settings with at least one worker and room for at least one batch. -/
def validate (s : Settings) : Except Fault Settings :=
  if s.writer.workers = 0 then .error .noWorkers
  else if s.writer.capacity = 0 then .error .noCapacity
  else .ok s

/-- Why there are no settings. Reading crashes on the place of an item that no list has. -/
inductive LoadError where
  | unreadable
  | invalid (fault : Fault)
  | crashed
  deriving DecidableEq, Repr

/-- What is said about an error; nothing is said about a crash. -/
def LoadError.message? : LoadError → Option String
  | unreadable => some "Failed to load configuration"
  | invalid fault => some fault.message
  | crashed => none

def check (s : Option Settings) : Except LoadError Settings :=
  match s with
  | none => .error .unreadable
  | some s =>
    match s.validate with
    | .error fault => .error (.invalid fault)
    | .ok s => .ok s

/-! ## Descriptions -/

private def flag (b : Bool) : List Char := (if b then "true" else "false").toList

private def count (n : Nat) : List Char := Text.Decimal.ofNat n

def describeAs (name : String) (fields : List (String × List Char)) : List Char :=
  name.toList ++ " \x7b ".toList
    ++ ", ".toList.intercalate (fields.map fun f => f.1.toList ++ ": ".toList ++ f.2)
    ++ " \x7d".toList

def describeList (items : List String) : List Char :=
  '[' :: ", ".toList.intercalate (items.map fun s => Text.Quoted.text s.toList) ++ [']']

end Settings

def StoreSettings.describe (s : StoreSettings) : List Char :=
  Settings.describeAs "StoreConfig" [
    ("kind", s.kind.title.toList),
    ("path", Text.Quoted.path s.path.toList),
    ("database_url", Text.Quoted.text (Settings.mask s.url.toList)),
    ("max_connections", Text.Decimal.ofNat s.connections.toNat)]

namespace Settings

def describe (s : Settings) : List Char :=
  describeAs "Config" [
    ("call_log", describeAs "CallLogConfig" [
      ("allow_emergency_numbers", flag s.history.allowEmergency),
      ("emergency_numbers", describeList s.history.emergency)]),
    ("writer", describeAs "WriterConfig" [
      ("workers", count s.writer.workers.toNat),
      ("queue_capacity", count s.writer.capacity.toNat)]),
    ("store", s.store.describe),
    ("logging", describeAs "LoggingConfig" [
      ("filter", Text.Quoted.text s.logging.filter.toList),
      ("reveal_pii", flag s.logging.reveal)]),
    ("metrics", describeAs "MetricsConfig" [
      ("listen", match s.metrics.listen with
        | none => "None".toList
        | some a => "Some(".toList ++ a.print ++ [')'])])]

end Settings
end CallHistory
