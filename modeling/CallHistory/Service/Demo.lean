import CallHistory.Pipeline.Basic

/-! # The demonstration

Four calls are led through their lives, so that each kind of entry can be seen: an answered call, a
missed one, one that never connected and one to an emergency number.
-/

namespace CallHistory.Service.Demo

structure Scene where
  incoming : Bool
  handle : Phone.Handle
  states : List CallState

def scenes : List Scene := [
  ⟨true, .tel "+1 (555) 010-0001", [.ringing, .active, .disconnected]⟩,
  ⟨true, .tel "555-010-0002", [.ringing, .disconnected]⟩,
  ⟨false, .sip "bob@example.com", [.dialing, .aborted]⟩,
  ⟨false, .tel "911", [.dialing, .active, .disconnected]⟩]

/-- What is asked of a pipeline for a call that is the `index`-th one there, at one clock
reading. -/
def Scene.requests (id : Uuid) (now : Instant) (index : Nat) (s : Scene) : List Request :=
  .add (.start id s.incoming (some s.handle) now) :: s.states.map fun state => .set index state now

/-- What is asked of a new pipeline. Each call has an id and a clock reading of its own. -/
def requests (ids : Nat → Uuid) (clock : Nat → Instant) : List Request :=
  scenes.zipIdx.flatMap fun (s, n) => s.requests (ids n) (clock n) n

end CallHistory.Service.Demo
