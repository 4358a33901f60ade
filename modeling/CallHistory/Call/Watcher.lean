import CallHistory.Call.Listeners

/-! # Watchers

Watchers are the plainest listeners: one that notes what it is told, one that crashes, and one that
registers a new noting watcher whenever it is told something.
-/

namespace CallHistory

inductive Watcher where
  | recorder
  | crasher
  | adder
  deriving DecidableEq, Repr

/-- What a watcher at a place of the list has noted. -/
structure Note where
  place : Nat
  transition : Transition
  deriving DecidableEq, Repr

namespace Watcher

def react : Behaviour Watcher (List Note)
  | place, recorder, t, notes => { state := notes ++ [⟨place, t⟩] }
  | _, crasher, _, notes => { state := notes, crashed := true }
  | _, adder, _, notes => { state := notes, added := [recorder] }

end Watcher
end CallHistory
