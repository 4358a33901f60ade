import CallHistory.Proofs.Settings.Readers

/-! # Settings one by one

Each setting has its place in a tree: its name, in a section. Where the sections that are there are
tables, the settings that are read from the tree are what it says about each of them on its own.
-/

namespace CallHistory

inductive Setting where
  | allowEmergency
  | emergency
  | workers
  | capacity
  | kind
  | path
  | url
  | connections
  | filter
  | reveal
  | listen
  deriving DecidableEq, Repr

namespace Setting

def all : List Setting :=
  [allowEmergency, emergency, workers, capacity, kind, path, url, connections, filter, reveal,
    listen]

@[reducible] def Value : Setting → Type
  | allowEmergency | reveal => Bool
  | emergency => List String
  | workers | capacity => UInt64
  | kind => StoreKind
  | path | url | filter => String
  | connections => UInt32
  | listen => Option Address

def part : Setting → String
  | allowEmergency | emergency => "call_log"
  | workers | capacity => "writer"
  | kind | path | url | connections => "store"
  | filter | reveal => "logging"
  | listen => "metrics"

def name : Setting → String
  | allowEmergency => "allow_emergency_numbers"
  | emergency => "emergency_numbers"
  | workers => "workers"
  | capacity => "queue_capacity"
  | kind => "kind"
  | path => "path"
  | url => "database_url"
  | connections => "max_connections"
  | filter => "filter"
  | reveal => "reveal_pii"
  | listen => "listen"

/-- The value that is read for a setting where a layer holds one. -/
def read? : (k : Setting) → Settings.Tree → Option k.Value
  | allowEmergency | reveal => Settings.Layers.reader.flag
  | emergency => Settings.Layers.reader.texts?
  | workers | capacity => fun v =>
    (Settings.Layers.reader.count (UInt64.size - 1) v).map UInt64.ofNat
  | kind => Settings.Layers.reader.kind
  | path | url | filter => Settings.Layers.reader.text
  | connections => fun v => (Settings.Layers.reader.count (UInt32.size - 1) v).map UInt32.ofNat
  | listen => Settings.Layers.reader.address?

def get (s : Settings) : (k : Setting) → k.Value
  | allowEmergency => s.history.allowEmergency
  | emergency => s.history.emergency
  | workers => s.writer.workers
  | capacity => s.writer.capacity
  | kind => s.store.kind
  | path => s.store.path
  | url => s.store.url
  | connections => s.store.connections
  | filter => s.logging.filter
  | reveal => s.logging.reveal
  | listen => s.metrics.listen

def collect (value : (k : Setting) → k.Value) : Settings where
  history := ⟨value .allowEmergency, value .emergency⟩
  writer := ⟨value .workers, value .capacity⟩
  store := ⟨value .kind, value .path, value .url, value .connections⟩
  logging := ⟨value .filter, value .reveal⟩
  metrics := ⟨value .listen⟩

@[simp] theorem get_collect (value : (k : Setting) → k.Value) (k : Setting) :
    get (collect value) k = value k := by
  cases k <;> rfl

theorem eq_of_get {s t : Settings} (h : ∀ k : Setting, k.get s = k.get t) : s = t :=
  congrArg collect (funext h)

/-- No two settings have the same name, not even in different sections. -/
theorem name_injective {k l : Setting} (h : k.name = l.name) : k = l := by
  have hfind (k : Setting) : all.find? (·.name = k.name) = some k := by cases k <;> decide
  exact Option.some.inj (by rw [← hfind k, h, hfind l])

end Setting

namespace Settings

namespace Tree

def isTable : Tree → Bool
  | table _ => true
  | _ => false

def held? (t : Tree) (k : Setting) : Option Tree :=
  ((t.at? k.part).getD absent).at? k.name

/-- The sections that are there are tables. -/
def HasTables (t : Tree) : Prop :=
  ∀ name ∈ sectionNames, (t.at? name).all isTable = true

instance (t : Tree) : Decidable t.HasTables :=
  inferInstanceAs (Decidable (∀ name ∈ sectionNames, _))

/-- What a tree says about a setting: the value read at its place, or what holds when nothing is
set. -/
def value? (t : Tree) (k : Setting) : Option k.Value :=
  (Section.named ((t.at? k.part).getD absent).members).get? k.name 0 k.read? (k.get {})

variable {t : Tree}

/-- A section is read alike where it is missing and where it is empty. -/
theorem get?_section {α : Type} {name : String} {unset : α} (read : Tree → Option α)
    (htable : (t.at? name).all isTable = true) (place : Nat)
    (hunset : read (.table []) = some unset) :
    (Section.named t.members).get? name place read unset =
      read (.table ((t.at? name).getD absent).members) := by
  rw [Section.get?, Section.find?, ← at?]
  cases hname : t.at? name with
  | none => exact hunset.symm
  | some v =>
    rw [hname] at htable
    cases v with
    | table members => rfl
    | _ => cases htable

theorem settings?_eq_some_iff (h : t.HasTables) {s : Settings} :
    Layers.reader.settings? t.members = some s ↔ ∀ k, t.value? k = some (k.get s) := by
  have hhistory : (Section.named t.members).get? "call_log" 0 Layers.reader.history? {} =
      (t.value? .allowEmergency).bind fun allow => (t.value? .emergency).bind fun emergency =>
        some ⟨allow, emergency⟩ :=
    get?_section Layers.reader.history? (h "call_log" (by decide)) 0 rfl
  have hwriter : (Section.named t.members).get? "writer" 1 Layers.reader.writer? {} =
      (t.value? .workers).bind fun workers => (t.value? .capacity).bind fun capacity =>
        some ⟨workers, capacity⟩ :=
    get?_section Layers.reader.writer? (h "writer" (by decide)) 1 rfl
  have hstore : (Section.named t.members).get? "store" 2 Layers.reader.store? {} =
      (t.value? .kind).bind fun kind => (t.value? .path).bind fun path =>
        (t.value? .url).bind fun url => (t.value? .connections).bind fun connections =>
          some ⟨kind, path, url, connections⟩ :=
    get?_section Layers.reader.store? (h "store" (by decide)) 2 rfl
  have hlogging : (Section.named t.members).get? "logging" 3 Layers.reader.logging? {} =
      (t.value? .filter).bind fun filter => (t.value? .reveal).bind fun reveal =>
        some ⟨filter, reveal⟩ :=
    get?_section Layers.reader.logging? (h "logging" (by decide)) 3 rfl
  have hmetrics : (Section.named t.members).get? "metrics" 4 Layers.reader.metrics? {} =
      (t.value? .listen).bind fun listen => some ⟨listen⟩ :=
    get?_section Layers.reader.metrics? (h "metrics" (by decide)) 4 rfl
  rw [Reader.settings?, hhistory, hwriter, hstore, hlogging, hmetrics]
  constructor
  · intro hs k
    simp only [Option.bind_eq_bind, Option.bind_eq_some_iff, Option.some.injEq] at hs
    obtain ⟨_, ⟨allow, hallow, emergency, hemergency, rfl⟩, hs⟩ := hs
    obtain ⟨_, ⟨workers, hworkers, capacity, hcapacity, rfl⟩, hs⟩ := hs
    obtain ⟨_, ⟨kind, hkind, path, hpath, url, hurl, connections, hconnections, rfl⟩, hs⟩ := hs
    obtain ⟨_, ⟨filter, hfilter, reveal, hreveal, rfl⟩, hs⟩ := hs
    obtain ⟨_, ⟨listen, hlisten, rfl⟩, hs⟩ := hs
    cases hs
    cases k <;> assumption
  · intro hvalues
    simp only [hvalues]
    rfl

theorem value?_of_held {k : Setting} {v : Tree} (h : t.held? k = some v) :
    t.value? k = k.read? v := by
  rw [held?, at?] at h
  rw [value?, Section.get?, Section.find?, h]

theorem value?_of_not_held {k : Setting} (h : t.held? k = none) : t.value? k = some (k.get {}) := by
  rw [held?, at?] at h
  rw [value?, Section.get?, Section.find?, h]

theorem value?_congr {u : Tree} {k : Setting} (h : t.held? k = u.held? k) :
    t.value? k = u.value? k := by
  cases hu : u.held? k with
  | none => rw [value?_of_not_held hu, value?_of_not_held (h.trans hu)]
  | some v => rw [value?_of_held hu, value?_of_held (h.trans hu)]

end Tree

end Settings
end CallHistory
