import CallHistory.Text.Decimal

/-! # What happens to a record on its way to the store

A batch is refused when the queue is full or the writer has stopped. A record that was accepted
moves forward only, from submitted over writing to one of the two terminal states.
-/

namespace CallHistory

inductive SubmitError where
  /-- No room in the queue for a batch of so many records. -/
  | queueFull (records : Nat)
  | stopped
  deriving DecidableEq, Repr

namespace SubmitError

def message : SubmitError → String
  | .queueFull n =>
    "call log queue is full, dropped " ++ String.ofList (Text.Decimal.ofNat n) ++ " record(s)"
  | .stopped => "call log writer is stopped"

end SubmitError

inductive WriteState where
  | submitted
  | writing
  | persisted
  | failed
  deriving DecidableEq, Repr, Inhabited

namespace WriteState

def all : List WriteState := [submitted, writing, persisted, failed]

def isTerminal : WriteState → Bool
  | persisted | failed => true
  | submitted | writing => false

/-- A record moves forward only and is never tried again. -/
def canMoveTo : WriteState → WriteState → Bool
  | submitted, writing | writing, persisted | writing, failed => true
  | _, _ => false

def key : WriteState → String
  | submitted => "submitted"
  | writing => "writing"
  | persisted => "persisted"
  | failed => "failed"

def title : WriteState → String
  | submitted => "Submitted"
  | writing => "Writing"
  | persisted => "Persisted"
  | failed => "Failed"

end WriteState

structure WriterStats where
  submitted : UInt64 := 0
  persisted : UInt64 := 0
  failed : UInt64 := 0
  dropped : UInt64 := 0
  deriving DecidableEq, Repr, Inhabited

end CallHistory
