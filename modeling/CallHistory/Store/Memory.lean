import CallHistory.Store.Basic

/-! # The memory store

Entries are kept in the order in which they came. While the store is locked it refuses everything,
as a device does before it has been unlocked.
-/

namespace CallHistory

structure Entry where
  id : EntryId
  record : Record
  deriving DecidableEq

structure Memory where
  entries : List Entry := []
  locked : Bool := false
  supply : Supply

namespace Memory

def records (m : Memory) : List Record :=
  m.entries.map Entry.record

def add (r : Record) (m : Memory) : Step Memory Reply :=
  if m.locked then ⟨.refused .locked, m, {}⟩
  else
    let id := m.supply.entry
    ⟨.stored id, { m with entries := m.entries ++ [⟨id, r⟩], supply := m.supply.next },
      .of [.entryStored id (m.entries.length + 1)]⟩

def store : Store Memory where
  add := add
  lock b m := { m with locked := b }

end Memory
end CallHistory
