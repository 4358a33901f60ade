import CallHistory.Json.Basic
import CallHistory.Settings.Basic

/-! # Settings as JSON

Settings are written with all their sections and values in a fixed order, the password of the
database among them.
-/

namespace CallHistory

def HistorySettings.toJson (s : HistorySettings) : Json :=
  .ofMembers [
    ("allow_emergency_numbers", .bool s.allowEmergency),
    ("emergency_numbers", .array (s.emergency.map Json.ofString))]

def WriterSettings.toJson (s : WriterSettings) : Json :=
  .ofMembers [
    ("workers", .ofInt s.workers.toNat),
    ("queue_capacity", .ofInt s.capacity.toNat)]

def StoreSettings.toJson (s : StoreSettings) : Json :=
  .ofMembers [
    ("kind", .ofString s.kind.key),
    ("path", .ofString s.path),
    ("database_url", .ofString s.url),
    ("max_connections", .ofInt s.connections.toNat)]

def LoggingSettings.toJson (s : LoggingSettings) : Json :=
  .ofMembers [("filter", .ofString s.filter), ("reveal_pii", .bool s.reveal)]

def MetricsSettings.toJson (s : MetricsSettings) : Json :=
  .ofMembers [("listen", .ofString? (s.listen.map fun a => .ofList a.print))]

def Settings.toJson (s : Settings) : Json :=
  .ofMembers [
    ("call_log", s.history.toJson),
    ("writer", s.writer.toJson),
    ("store", s.store.toJson),
    ("logging", s.logging.toJson),
    ("metrics", s.metrics.toJson)]

end CallHistory
