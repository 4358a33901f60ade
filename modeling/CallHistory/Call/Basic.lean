import CallHistory.Call.State
import CallHistory.Phone.Handle
import CallHistory.Time.Instant
import CallHistory.Uuid

/-! # Calls

A call moves through its states by `moveTo`, which refuses a move the life cycle does not have.
The end of a call is the clock reading of the move that ended it. What the history may see of a
call is a `CallInfo`.
-/

namespace CallHistory

structure CallInfo where
  incoming : Bool
  handle : Option Phone.Handle
  /-- Creation time, in milliseconds since the start of 1970. -/
  created : Int64
  /-- Milliseconds since the creation. -/
  age : Int64
  deriving Repr, DecidableEq

/-- One change of state, as it is reported to those who follow a call. -/
structure Transition where
  call : CallInfo
  old : CallState
  new : CallState
  deriving Repr, DecidableEq

namespace Transition

def isTerminal (t : Transition) : Bool :=
  t.new.isTerminal

/-- The description of a transition: direction and states, nothing personal. -/
def describe (t : Transition) : String :=
  "CallTransitionEvent \x7b incoming: " ++ (if t.call.incoming then "true" else "false")
    ++ ", old_state: " ++ t.old.title ++ ", new_state: " ++ t.new.title ++ " \x7d"

end Transition

/-- A move that the life cycle does not have. -/
structure MoveError where
  call : Uuid
  source : CallState
  target : CallState
  deriving Repr, DecidableEq

namespace MoveError

def message (e : MoveError) : String :=
  "Validation error: call " ++ String.ofList e.call.text ++ " cannot move from " ++ e.source.label
    ++ " to " ++ e.target.label

end MoveError

structure Call where
  id : Uuid
  incoming : Bool
  handle : Option Phone.Handle
  state : CallState
  created : Instant
  ended : Option Instant
  deriving Repr, DecidableEq

namespace Call

def start (id : Uuid) (incoming : Bool) (handle : Option Phone.Handle) (created : Instant) : Call :=
  ⟨id, incoming, handle, .new, created, none⟩

/-- The call after a move at the clock reading `now`, and the state it left. -/
def moveTo (c : Call) (target : CallState) (now : Instant) : Except MoveError (CallState × Call) :=
  if c.state.canMoveTo target then
    .ok (c.state, { c with
      state := target
      ended := if target.isTerminal then some now else c.ended })
  else .error ⟨c.id, c.state, target⟩

/-- Milliseconds from the creation to the end, or to `now` while the call lives; never negative. -/
def age (c : Call) (now : Instant) : Int :=
  max (c.created.millisUntil (c.ended.getD now)) 0

def info (c : Call) (now : Instant) : CallInfo :=
  ⟨c.incoming, c.handle, .ofInt c.created.millis, .ofInt (c.age now)⟩

end Call
end CallHistory
