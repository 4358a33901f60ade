import CallHistory.Report.Basic

/-! # Telling listeners

A call that moves to another state is reported to the listeners registered at that moment, in the
order of their registration. A listener may register others, who are told of later moves only; one
that crashes keeps the rest from being told, but the call has moved all the same.
-/

namespace CallHistory

variable {ℓ σ : Type}

structure Reaction (ℓ σ : Type) where
  state : σ
  /-- The listeners it registers. -/
  added : List ℓ := []
  crashed : Bool := false
  report : Report := {}

abbrev Behaviour (ℓ σ : Type) := Nat → ℓ → Transition → σ → Reaction ℓ σ

def register (l : ℓ) (listeners : List ℓ) : Step (List ℓ) Unit :=
  ⟨(), listeners ++ [l], .of [.listenerRegistered (listeners.length + 1)]⟩

def registerAll : List ℓ → List ℓ → Step (List ℓ) Unit
  | [], listeners => ⟨(), listeners, {}⟩
  | l :: rest, listeners =>
    let first := register l listeners
    let others := registerAll rest first.state
    ⟨(), others.state, first.report ++ others.report⟩

/-- Tells the listeners of a transition, from the one at `place` on; whether all of them were told
without a crash. -/
def tell (react : Behaviour ℓ σ) (t : Transition) :
    Nat → List ℓ → List ℓ × σ → Step (List ℓ × σ) Bool
  | _, [], s => ⟨true, s, {}⟩
  | place, l :: rest, (listeners, s) =>
    let reaction := react place l t s
    let registered := registerAll reaction.added listeners
    let state := (registered.state, reaction.state)
    let report := reaction.report ++ registered.report
    if reaction.crashed then ⟨false, state, report⟩
    else
      let others := tell react t (place + 1) rest state
      ⟨others.answer, others.state, report ++ others.report⟩

inductive Moved where
  | done
  | refused (error : MoveError)
  /-- The call has moved, but a listener crashed. -/
  | crashed
  deriving DecidableEq, Repr

namespace Call

/-- Moves a call at the clock reading `now` and tells the listeners. Asking for the state that the
call is in does nothing. -/
def setState (react : Behaviour ℓ σ) (c : Call) (target : CallState) (now : Instant)
    (s : List ℓ × σ) : Step (Call × List ℓ × σ) Moved :=
  if c.state = target then ⟨.done, (c, s), {}⟩
  else
    match c.moveTo target now with
    | .error e => ⟨.refused e, (c, s), {}⟩
    | .ok (left, moved) =>
      let told := tell react ⟨moved.info now, left, target⟩ 0 s.1 s
      ⟨if told.answer then .done else .crashed, (moved, told.state),
        .of [.callMoved c.id left target] ++ told.report⟩

end Call
end CallHistory
