import CallHistory.Report.Basic
import CallHistory.Time.Stamp

/-! # Stores

A store takes one record at a time and answers with the name of the entry, a refusal, or not at
all because it crashed. What it draws from outside, the names of entries and the time, comes from a
supply.
-/

namespace CallHistory

inductive Reply where
  | stored (entry : EntryId)
  | refused (cause : StoreError)
  | crashed
  deriving DecidableEq, Repr

structure Store (σ : Type) where
  add : Record → σ → Step σ Reply
  /-- Locks or unlocks the store, if it has a lock. -/
  lock : Bool → σ → σ := fun _ s => s

/-- Names and clock readings, drawn in order. -/
structure Supply where
  ids : Nat → Uuid
  clock : Nat → Stamp
  drawn : Nat := 0

namespace Supply

def entry (s : Supply) : EntryId := ⟨s.ids s.drawn⟩

def now (s : Supply) : Stamp := s.clock s.drawn

/-- The supply after one name and one clock reading. -/
def next (s : Supply) : Supply := { s with drawn := s.drawn + 1 }

end Supply
end CallHistory
