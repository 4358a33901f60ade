import CallHistory.Settings.Basic
import CallHistory.Store.Database
import CallHistory.Store.File
import CallHistory.Store.Memory

/-! # Opening a store

The settings say where entries are kept. An archive is a store of any of these kinds; opening a
database can fail before there is one.
-/

namespace CallHistory

inductive Archive (δ : Type) where
  | memory (m : Memory)
  | file (f : FileLog δ)
  | database (d : Database)

namespace Archive

variable {δ : Type}

/-- What is around a store: a disk, a server at the address of the database, names and clock. -/
structure Site (δ : Type) where
  disk : Disk δ
  drive : δ
  server : Option Server
  supply : Supply

def add (disk : Disk δ) (r : Record) : Archive δ → Step (Archive δ) Reply
  | memory m =>
    let done := Memory.store.add r m
    ⟨done.answer, memory done.state, done.report⟩
  | file f =>
    let done := (FileLog.store disk).add r f
    ⟨done.answer, file done.state, done.report⟩
  | database d =>
    let done := Database.store.add r d
    ⟨done.answer, database done.state, done.report⟩

def lock (b : Bool) : Archive δ → Archive δ
  | memory m => memory (Memory.store.lock b m)
  | a => a

def store (disk : Disk δ) : Store (Archive δ) where
  add := add disk
  lock := lock

/-- The drive of a site after a store has been at work on it. -/
def driveOr (drive : δ) : Archive δ → δ
  | file f => f.disk
  | _ => drive

def openDatabase (s : StoreSettings) (site : Site δ) : Step Unit (Except StoreError (Archive δ)) :=
  let masked := String.ofList (Settings.mask s.url.toList)
  let connected := Database.connect masked s.connections.toNat site.server site.supply
  match connected.answer with
  | .error text => ⟨.error (.unavailable text), (), connected.report⟩
  | .ok d =>
    let migrated := d.migrate
    let report := connected.report ++ migrated.report
    match migrated.answer with
    | .error text => ⟨.error (.database text), (), report⟩
    | .ok d => ⟨.ok (database d), (), report ++ .of [.databaseChosen]⟩

def openStore (s : StoreSettings) (site : Site δ) : Step Unit (Except StoreError (Archive δ)) :=
  match s.kind with
  | .memory => ⟨.ok (memory { supply := site.supply }), (), .of [.memoryChosen]⟩
  | .file =>
    ⟨.ok (file ⟨s.path, site.drive, site.supply⟩), (), .of [.fileChosen s.path]⟩
  | .postgres => openDatabase s site

end Archive
end CallHistory
