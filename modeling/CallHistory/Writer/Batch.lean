import CallHistory.Store.Basic

/-! # Writing batches

Every record of a batch is written on its own: one that is refused, or that crashes the store,
leaves the others alone. A batch has one outcome per record, in order.
-/

namespace CallHistory

inductive Outcome where
  | persisted (entry : EntryId)
  | failed
  deriving DecidableEq, Repr

namespace Outcome

def ofReply : Reply → Outcome
  | .stored entry => persisted entry
  | .refused _ | .crashed => failed

def state : Outcome → WriteState
  | persisted _ => .persisted
  | failed => .failed

def entry? : Outcome → Option EntryId
  | persisted entry => some entry
  | failed => none

def isFailed : Outcome → Bool
  | persisted _ => false
  | failed => true

def failures (outcomes : List Outcome) : Nat :=
  outcomes.countP isFailed

def successes (outcomes : List Outcome) : Nat :=
  outcomes.countP (!isFailed ·)

/-- One warning for each failure. -/
def warnings (outcomes : List Outcome) : List Report.Event :=
  List.replicate (failures outcomes) .writeFailed

end Outcome

def Reply.event : Reply → Report.Event
  | stored entry => .entryWritten entry
  | refused cause => .writeRefused cause
  | crashed => .storeCrashed

variable {σ : Type}

namespace Store

def write (store : Store σ) (r : Record) (s : σ) : Step σ Outcome :=
  let reply := store.add r s
  let outcome := Outcome.ofReply reply.answer
  ⟨outcome, reply.state,
    .of [.writeMoved .submitted .writing] ++ reply.report
      ++ .of [reply.answer.event, .writeMoved .writing outcome.state]⟩

def writeAll (store : Store σ) : List Record → σ → Step σ (List Outcome)
  | [], s => ⟨[], s, {}⟩
  | r :: rest, s =>
    let first := store.write r s
    let others := store.writeAll rest first.state
    ⟨first.answer :: others.answer, others.state, first.report ++ others.report⟩

end Store
end CallHistory
