import CallHistory.Store.Basic

/-! # The database store

Records become rows of a table. The store reaches its server through a pool of connections; a
server that hangs up, or a pool that is closed, makes the store unavailable for that record, while
a row against the rules of the table is rejected.
-/

namespace CallHistory

inductive ServerFault where
  | hangUp
  /-- An error answer with its five-letter code. -/
  | refuse (code text : String)
  deriving DecidableEq, Repr

namespace ServerFault

/-- The code of a row against a check of its table. -/
def checkViolation : String := "23514"

/-- The text of a fault as the connection reports it. -/
def text : ServerFault → String
  | hangUp => "error communicating with database: unexpected end of file"
  | refuse _ text => "error returned from database: " ++ text

def error : ServerFault → StoreError
  | hangUp => .unavailable hangUp.text
  | refuse code text =>
    if code = checkViolation then .rejected text else .database (refuse code text).text

end ServerFault

inductive Cell where
  | text (s : Option String)
  /-- A number that takes so many bytes. -/
  | number (bytes : Nat) (value : Int)
  deriving DecidableEq, Repr

def Record.columns (r : Record) : List (String × Cell) := [
  ("number", .text r.number),
  ("presentation", .number 2 r.presentation.code),
  ("call_type", .number 2 r.kind.code),
  ("date_millis", .number 8 r.start.toInt),
  ("duration_secs", .number 8 r.duration.toInt),
  ("contact_name", .text (r.contact.bind Contact.name)),
  ("number_label", .text (r.contact.bind Contact.label))]

/-- A row as the server was given it. -/
structure Row where
  id : Uuid
  columns : List (String × Cell)
  deriving DecidableEq, Repr

/-- A server: how it fails, and what has reached it. -/
structure Server where
  onStart : Option ServerFault := none
  onMigrate : Option ServerFault := none
  onInsert : Option String → Option ServerFault := fun _ => none
  rows : List Row := []
  migrated : Bool := false

structure Database where
  server : Server
  closed : Bool := false
  supply : Supply

namespace Database

def closedText : String := "attempted to acquire a connection on a closed pool"

def add (r : Record) (d : Database) : Step Database Reply :=
  let id := d.supply.entry.uuid
  let d := { d with supply := d.supply.next }
  let failed (text : String) (e : StoreError) (d : Database) : Step Database Reply :=
    ⟨.refused e, d, .of [.entryInserting id, .insertFailed text]⟩
  if d.closed then failed closedText (.unavailable closedText) d
  else
    let server := { d.server with rows := d.server.rows ++ [Row.mk id r.columns] }
    match server.onInsert r.number with
    | some fault => failed fault.text fault.error { d with server }
    | none =>
      ⟨.stored ⟨id⟩, { d with server }, .of [.entryInserting id, .entryInserted id]⟩

def store : Store Database where
  add := add

/-- Opens a pool to whatever answers at an address. -/
def connect (maskedUrl : String) (connections : Nat) (server : Option Server) (supply : Supply) :
    Step Unit (Except String Database) :=
  let opening : List Report.Event := [.poolOpening, .poolAddress maskedUrl, .poolSize connections]
  match server with
  | none => ⟨.error "no server answers at this address", (), .of opening⟩
  | some server =>
    match server.onStart with
    | some fault => ⟨.error fault.text, (), .of opening⟩
    | none => ⟨.ok { server, supply }, (), .of (opening ++ [.poolOpened])⟩

def migrate (d : Database) : Step Unit (Except String Database) :=
  match d.server.onMigrate with
  | some fault => ⟨.error fault.text, (), .of [.migrating]⟩
  | none =>
    ⟨.ok { d with server := { d.server with migrated := true } }, (), .of [.migrating, .migrated]⟩

end Database
end CallHistory
