import CallHistory.Phone.Emergency
import CallHistory.Report.Basic

/-! # Dispatching records

When a call ends, the dispatcher builds its record, keeps it out if it is an emergency call that
policy forbids, and hands it to a submitter otherwise. As a listener it absorbs whatever the
submitter does, so following calls never fails because of the history.
-/

namespace CallHistory

/-- The result of handing something on: done, refused, or a crash on the way. -/
inductive Attempt (α : Type) where
  | done (answer : α)
  | refused (cause : SubmitError)
  | crashed
  deriving DecidableEq, Repr

namespace Attempt

def map {α β : Type} (f : α → β) : Attempt α → Attempt β
  | done a => done (f a)
  | refused cause => refused cause
  | crashed => crashed

def ofExcept {α : Type} : Except SubmitError α → Attempt α
  | .ok a => done a
  | .error cause => refused cause

end Attempt

abbrev Submitter (σ : Type) := List Record → σ → Step σ (Attempt Unit)

inductive Dispatch where
  | submitted
  | suppressed
  deriving DecidableEq, Repr

/-- Decides which records enter the history. -/
structure Dispatcher where
  policy : Policy
  emergency : Phone.EmergencyNumbers
  deriving DecidableEq, Repr

namespace Dispatcher

variable {σ : Type}

/-- Whether a record is one of an emergency call; without a number it never is. -/
def isEmergency (d : Dispatcher) (r : Record) : Bool :=
  r.number.any d.emergency.recognizes

/-- Hands a record to the submitter unless policy keeps it out. -/
def log (d : Dispatcher) (submit : Submitter σ) (r : Record) (s : σ) : Step σ (Attempt Dispatch) :=
  if d.policy.permits (d.isEmergency r) then
    let sent := submit [r] s
    ⟨sent.answer.map fun _ => .submitted, sent.state, .of [.recordOffered r] ++ sent.report⟩
  else ⟨.done .suppressed, s, .of [.emergencyCall] ++ .count { suppressed := 1 }⟩

def record (t : Transition) : Record :=
  .ofCall t.call (.classify t.call.incoming t.old)

/-- Logs the call of a transition that ended it; any other transition is ignored. -/
def handle (d : Dispatcher) (submit : Submitter σ) (t : Transition) (s : σ) :
    Step σ (Attempt (Option Dispatch)) :=
  if t.isTerminal then
    let r := record t
    let logged := d.log submit r s
    ⟨logged.answer.map some, logged.state, .of [.numberChosen r.number] ++ logged.report⟩
  else ⟨.done none, s, {}⟩

/-- What is reported of a result that nobody is told. -/
def absorbed (t : Transition) : Attempt (Option Dispatch) → List Report.Event
  | .done _ => []
  | .refused cause => [.notQueued cause]
  | .crashed => [.crashed t]

def listen (d : Dispatcher) (submit : Submitter σ) (t : Transition) (s : σ) : Step σ Unit :=
  let handled := d.handle submit t s
  ⟨(), handled.state, handled.report ++ .of (absorbed t handled.answer)⟩

end Dispatcher
end CallHistory
