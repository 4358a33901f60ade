/-! # Call states

The nine states of a call and the moves between them. A call ends in one of the two terminal
states and moves no further; either of them can be reached from any other state.
-/

namespace CallHistory

inductive CallState where
  | new
  | connecting
  | preDialWait
  | dialing
  | ringing
  | active
  | onHold
  | disconnected
  | aborted
  deriving DecidableEq, Repr, Inhabited

namespace CallState

def all : List CallState :=
  [new, connecting, preDialWait, dialing, ringing, active, onHold, disconnected, aborted]

/-- The two states in which a call is over. -/
def isTerminal : CallState → Bool
  | disconnected | aborted => true
  | _ => false

/-- The moves of a living call that do not end it. -/
def leadsTo : CallState → List CallState
  | new => [connecting, preDialWait, dialing, ringing]
  | connecting => [preDialWait, dialing]
  | preDialWait => [dialing]
  | dialing => [active]
  | ringing => [active]
  | active => [onHold]
  | onHold => [active]
  | disconnected | aborted => []

def canMoveTo (s t : CallState) : Bool :=
  !s.isTerminal && (t.isTerminal || (leadsTo s).contains t)

/-- The name of a state in reports and messages. -/
def label : CallState → String
  | new => "NEW"
  | connecting => "CONNECTING"
  | preDialWait => "PRE_DIAL_WAIT"
  | dialing => "DIALING"
  | ringing => "RINGING"
  | active => "ACTIVE"
  | onHold => "ON_HOLD"
  | disconnected => "DISCONNECTED"
  | aborted => "ABORTED"

/-- The name of a state in data. -/
def key : CallState → String
  | new => "new"
  | connecting => "connecting"
  | preDialWait => "pre_dial_wait"
  | dialing => "dialing"
  | ringing => "ringing"
  | active => "active"
  | onHold => "on_hold"
  | disconnected => "disconnected"
  | aborted => "aborted"

/-- The name of a state in the description of a transition. -/
def title : CallState → String
  | new => "New"
  | connecting => "Connecting"
  | preDialWait => "PreDialWait"
  | dialing => "Dialing"
  | ringing => "Ringing"
  | active => "Active"
  | onHold => "OnHold"
  | disconnected => "Disconnected"
  | aborted => "Aborted"

end CallState
end CallHistory
