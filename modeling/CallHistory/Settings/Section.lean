import CallHistory.Settings.Basic

/-! # Sections of settings

Settings are read from a tree of sections and values. A section holds values under names or values
in order; a value that is not there keeps what is set without it, and whatever is not asked for is
passed over. How a single value is read is left to a `Reader`.
-/

namespace CallHistory.Settings

inductive Section (τ : Type) where
  | named (members : List (String × τ))
  | listed (items : List τ)
  deriving Repr

/-- The value with a name, or at a place where values have no names. -/
def Section.find? {τ : Type} (name : String) (place : Nat) : Section τ → Option τ
  | .named members => members.lookup name
  | .listed items => items[place]?

def Section.get? {τ α : Type} (s : Section τ) (name : String) (place : Nat)
    (read : τ → Option α) (unset : α) : Option α :=
  match s.find? name place with
  | none => some unset
  | some v => read v

/-- How the values of a tree are read. -/
structure Reader (τ : Type) where
  part : τ → Option (Section τ)
  flag : τ → Option Bool
  /-- A count up to a largest one. -/
  count : Nat → τ → Option Nat
  text : τ → Option String
  items : τ → Option (List τ)
  kind : τ → Option StoreKind
  /-- A value that may stand for the absence of one. -/
  optional : τ → Option τ

namespace Reader

variable {τ : Type} (r : Reader τ)

def texts? (v : τ) : Option (List String) :=
  (r.items v).bind fun items => items.mapM r.text

def address? (v : τ) : Option (Option Address) :=
  match r.optional v with
  | none => some none
  | some v => (r.text v).bind fun s => (Address.parse? s.toList).map some

def history? (v : τ) : Option HistorySettings := do
  let s ← r.part v
  let unset : HistorySettings := {}
  return ⟨← s.get? "allow_emergency_numbers" 0 r.flag unset.allowEmergency,
    ← s.get? "emergency_numbers" 1 r.texts? unset.emergency⟩

def writer? (v : τ) : Option WriterSettings := do
  let s ← r.part v
  let unset : WriterSettings := {}
  let count v := (r.count (UInt64.size - 1) v).map UInt64.ofNat
  return ⟨← s.get? "workers" 0 count unset.workers,
    ← s.get? "queue_capacity" 1 count unset.capacity⟩

def store? (v : τ) : Option StoreSettings := do
  let s ← r.part v
  let unset : StoreSettings := {}
  let count v := (r.count (UInt32.size - 1) v).map UInt32.ofNat
  return ⟨← s.get? "kind" 0 r.kind unset.kind, ← s.get? "path" 1 r.text unset.path,
    ← s.get? "database_url" 2 r.text unset.url,
    ← s.get? "max_connections" 3 count unset.connections⟩

def logging? (v : τ) : Option LoggingSettings := do
  let s ← r.part v
  let unset : LoggingSettings := {}
  return ⟨← s.get? "filter" 0 r.text unset.filter, ← s.get? "reveal_pii" 1 r.flag unset.reveal⟩

def metrics? (v : τ) : Option MetricsSettings := do
  let s ← r.part v
  let unset : MetricsSettings := {}
  return ⟨← s.get? "listen" 0 r.address? unset.listen⟩

def settings? (members : List (String × τ)) : Option Settings := do
  let s := Section.named members
  return {
    history := ← s.get? "call_log" 0 r.history? {}
    writer := ← s.get? "writer" 1 r.writer? {}
    store := ← s.get? "store" 2 r.store? {}
    logging := ← s.get? "logging" 3 r.logging? {}
    metrics := ← s.get? "metrics" 4 r.metrics? {} }

end Reader
end CallHistory.Settings
