import CallHistory.Call.Listeners
import CallHistory.Record.Dispatch

/-! # What a dispatcher hands over

A request that the life cycle allows makes one transition, any other makes none. Of a transition a
dispatcher hands over at most one batch, which depends on the policy and the transition alone; what
the submitter makes of the batch comes back to nobody who follows the call.
-/

namespace CallHistory

variable {ℓ σ : Type}

namespace Dispatcher

def batch? (d : Dispatcher) (r : Record) : Option (List Record) :=
  if d.policy.permits (d.isEmergency r) then some [r] else none

/-- The batch of a transition, if it ended a call whose record policy lets through. -/
def batchOf? (d : Dispatcher) (t : Transition) : Option (List Record) :=
  if t.isTerminal then d.batch? (record t) else none

/-- The state of a submitter that has been handed a batch, or nothing. -/
def given (submit : Submitter σ) (s : σ) : Option (List Record) → σ
  | some batch => (submit batch s).state
  | none => s

theorem log_state (d : Dispatcher) (submit : Submitter σ) (r : Record) (s : σ) :
    (d.log submit r s).state = given submit s (d.batch? r) := by
  unfold log batch?
  split <;> rfl

theorem handle_state (d : Dispatcher) (submit : Submitter σ) (t : Transition) (s : σ) :
    (d.handle submit t s).state = given submit s (d.batchOf? t) := by
  unfold handle batchOf?
  split
  · exact d.log_state submit (record t) s
  · rfl

theorem listen_state (d : Dispatcher) (submit : Submitter σ) (t : Transition) (s : σ) :
    (d.listen submit t s).state = given submit s (d.batchOf? t) :=
  d.handle_state submit t s

def listening (submit : Submitter σ) : Behaviour Dispatcher σ := fun _ d t s =>
  let told := d.listen submit t s
  { state := told.state, report := told.report }

end Dispatcher

theorem tell_single (react : Behaviour ℓ σ) (t : Transition) (l : ℓ) (s : σ)
    (hadd : (react 0 l t s).added = []) (hcrash : (react 0 l t s).crashed = false) :
    tell react t 0 [l] ([l], s) = ⟨true, ([l], (react 0 l t s).state), (react 0 l t s).report⟩ := by
  simp [tell, hadd, hcrash, registerAll]

namespace CallState

@[simp] theorem canMoveTo_self (s : CallState) : s.canMoveTo s = false := by
  cases s <;> rfl

theorem canMoveTo_of_isTerminal {s : CallState} (h : s.isTerminal = true) (t : CallState) :
    s.canMoveTo t = false := by
  simp [canMoveTo, h]

theorem isTerminal_of_canMoveTo {s t : CallState} (h : s.canMoveTo t = true) :
    s.isTerminal = false := by
  by_cases hend : s.isTerminal = true
  · rw [canMoveTo_of_isTerminal hend] at h
    exact Bool.noConfusion h
  · simpa using hend

theorem canMoveTo_terminal {s t : CallState} (hs : s.isTerminal = false)
    (ht : t.isTerminal = true) : s.canMoveTo t = true := by
  simp [canMoveTo, hs, ht]

end CallState

namespace Call

def moved (c : Call) (target : CallState) (now : Instant) : Call :=
  { c with state := target, ended := if target.isTerminal then some now else c.ended }

def transition? (c : Call) (target : CallState) (now : Instant) : Option Transition :=
  if c.state.canMoveTo target then some ⟨(c.moved target now).info now, c.state, target⟩ else none

def verdict (c : Call) (target : CallState) : Moved :=
  if c.state = target ∨ c.state.canMoveTo target then .done else .refused ⟨c.id, c.state, target⟩

/-- A refused request, like one for the state that the call is in, changes nothing. -/
theorem setState_refused (react : Behaviour ℓ σ) {c : Call} {target : CallState}
    (h : c.state.canMoveTo target = false) (now : Instant) (s : List ℓ × σ) :
    c.setState react target now s = ⟨c.verdict target, (c, s), {}⟩ := by
  unfold setState verdict
  by_cases hsame : c.state = target
  · rw [if_pos hsame, if_pos (.inl hsame)]
  · rw [if_neg hsame, if_neg (by simp [hsame, h])]
    simp [moveTo, h]

theorem setState_accepted (react : Behaviour ℓ σ) {c : Call} {target : CallState}
    (h : c.state.canMoveTo target = true) (now : Instant) (s : List ℓ × σ) :
    let told := tell react ⟨(c.moved target now).info now, c.state, target⟩ 0 s.1 s
    c.setState react target now s =
      ⟨if told.answer then .done else .crashed, (c.moved target now, told.state),
        .of [.callMoved c.id c.state target] ++ told.report⟩ := by
  have hne : c.state ≠ target := by
    rintro rfl
    rw [CallState.canMoveTo_self] at h
    exact Bool.noConfusion h
  have hmove : c.moveTo target now = .ok (c.state, c.moved target now) := by
    unfold moveTo
    rw [if_pos h]
    rfl
  unfold setState
  rw [if_neg hne, hmove]

/-- With a dispatcher as the only listener, an accepted request moves the call and tells the
dispatcher of it. Whatever becomes of the batch at the submitter, nobody learns of it. -/
theorem setState_listening_accepted (d : Dispatcher) (submit : Submitter σ) {c : Call}
    {target : CallState} (h : c.state.canMoveTo target = true) (now : Instant) (s : σ) :
    let told := d.listen submit ⟨(c.moved target now).info now, c.state, target⟩ s
    c.setState (Dispatcher.listening submit) target now ([d], s) =
      ⟨.done, (c.moved target now, [d], told.state),
        .of [.callMoved c.id c.state target] ++ told.report⟩ := by
  intro told
  have htold := tell_single (Dispatcher.listening submit)
    ⟨(c.moved target now).info now, c.state, target⟩ d s rfl rfl
  rw [setState_accepted _ h]
  simp only [htold]
  rfl

/-- With a dispatcher as the only listener, a request moves the call and hands over the batch of the
transition that it makes. -/
theorem setState_listening (d : Dispatcher) (submit : Submitter σ) (c : Call) (target : CallState)
    (now : Instant) (s : σ) :
    (c.setState (Dispatcher.listening submit) target now ([d], s)).state =
      (if c.state.canMoveTo target then c.moved target now else c, [d],
        Dispatcher.given submit s ((c.transition? target now).bind d.batchOf?)) := by
  by_cases h : c.state.canMoveTo target = true
  · rw [setState_listening_accepted d submit h]
    simp only [h, if_true, transition?, Option.bind_some, Dispatcher.listen_state]
  · rw [setState_refused _ (by simpa using h)]
    simp [h, transition?, Dispatcher.given]

end Call
end CallHistory
