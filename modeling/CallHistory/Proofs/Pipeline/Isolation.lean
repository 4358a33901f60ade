import CallHistory.Proofs.Calls.Listening
import CallHistory.Proofs.Pipeline.Session
import CallHistory.Store.Fault
import CallHistory.Store.Memory

/-! # Following calls does not depend on their history

Between the requests that lead calls a pipeline can be asked for anything else, its store can fail in
any way, and its writer can refuse, stop or be killed. What those who lead the calls see of it is
what `Control.run` says, which knows of calls alone.
-/

namespace CallHistory

variable {σ : Type}

namespace Call

/-- A call without the name that it was given by chance. -/
def nameless (c : Call) : Call := { c with id := default }

end Call

namespace Answer

def nameless : Answer → Answer
  | .moved (.refused e) => .moved (.refused { e with call := default })
  | answer => answer

end Answer

namespace Request

/-- What a request asks of those who lead calls, without the name of a call. -/
def control? : Request → Option Request
  | .add call => some (.add call.nameless)
  | .set index target now => some (.set index target now)
  | _ => none

end Request

/-- What is seen of an exchange by those who lead calls: the answer, and the calls after it. -/
def Exchange.sight? (x : Exchange σ) : Option (Answer × List Call) :=
  x.request.control?.map fun _ => (x.answer.nameless, x.after.calls.map Call.nameless)

namespace Control

def answer (calls : List Call) : Request → Answer
  | .add _ => .added calls.length
  | .set index target _ =>
    match calls[index]? with
    | none => .noCall
    | some c => .moved (c.verdict target)
  | _ => .done

def run : List Call → List Request → List (Answer × List Call)
  | _, [] => []
  | calls, request :: rest =>
    let after := Pipeline.callsAfter calls request
    ((answer calls request).nameless, after) :: run after rest

end Control

namespace MoveRequest

theorem mover?_nameless (q : MoveRequest) (calls : List Call) :
    q.mover? (calls.map Call.nameless) = (q.mover? calls).map Call.nameless := by
  unfold mover?
  rw [List.getElem?_map, Option.filter_map]
  rfl

theorem apply_nameless (q : MoveRequest) (calls : List Call) :
    q.apply (calls.map Call.nameless) = (q.apply calls).map Call.nameless := by
  unfold apply
  rw [mover?_nameless]
  cases q.mover? calls with
  | none => rfl
  | some c => exact (List.map_set (f := Call.nameless) (a := c.moved q.target q.now)).symm

end MoveRequest

namespace Pipeline

theorem callsAfter_of_control? {request control : Request} (h : request.control? = some control)
    (calls : List Call) :
    (callsAfter calls request).map Call.nameless =
      callsAfter (calls.map Call.nameless) control := by
  cases request with
  | add call =>
    cases h
    exact List.map_append
  | set index target now =>
    cases h
    exact (MoveRequest.apply_nameless _ calls).symm
  | _ => cases h

theorem callsAfter_of_control?_eq_none {request : Request} (h : request.control? = none)
    (calls : List Call) : callsAfter calls request = calls := by
  cases request with
  | add call => cases h
  | set index target now => cases h
  | _ => rfl

theorem answer_of_control? {request control : Request} (h : request.control? = some control)
    (store : Store σ) (p : Pipeline σ) :
    (p.step store request).answer.nameless =
      (Control.answer (p.calls.map Call.nameless) control).nameless := by
  cases request with
  | add call =>
    cases h
    simp [step, Control.answer]
  | set index target now =>
    cases h
    simp only [Control.answer, List.getElem?_map]
    cases hcall : p.calls[index]? with
    | none => simp [step, hcall]
    | some c =>
      simp only [step, hcall, Dispatcher.react_eq_listening, Call.setState_listening_answer,
        Option.map_some]
      unfold Call.verdict
      change Answer.nameless (.moved (if c.state = target ∨ c.state.canMoveTo target = true then _
        else _)) = Answer.nameless (.moved (if c.state = target ∨ c.state.canMoveTo target = true
        then _ else _))
      split <;> rfl
  | _ => cases h

theorem step_answer_ne_crashed (store : Store σ) (p : Pipeline σ) (request : Request) :
    (p.step store request).answer ≠ .moved .crashed := by
  cases request with
  | set index target now =>
    cases hcall : p.calls[index]? with
    | none => simp [step, hcall]
    | some c =>
      simp only [step, hcall, Dispatcher.react_eq_listening, Call.setState_listening_answer]
      unfold Call.verdict
      split <;> simp
  | _ => simp [step]

theorem Answers.calls {store : Store σ} {p q : Pipeline σ} {request : Request}
    (h : Answers store p request q) : q.calls = callsAfter p.calls request := by
  have hstep (hq : q = (p.step store request).state) : q.calls = callsAfter p.calls request := by
    rw [hq]
    exact (step_state store p request).2.1
  cases request with
  | drain =>
    rcases h with ⟨x, -, rfl⟩
    rfl
  | shutdown =>
    rcases h with ⟨x, -, rfl⟩
    rfl
  | _ => exact hstep h

/-- What is seen of a session by those who lead the calls is decided by what they ask. -/
theorem Session.sights {store : Store σ} {p q : Pipeline σ} {exchanges : List (Exchange σ)}
    (h : Session store p exchanges q) :
    exchanges.filterMap Exchange.sight? =
      Control.run (p.calls.map Call.nameless) (exchanges.filterMap (·.request.control?)) := by
  induction h with
  | done p => rfl
  | @next p request q exchanges r hanswers hrest ih =>
    rw [hanswers.calls] at ih
    cases hcontrol : request.control? with
    | none =>
      rw [callsAfter_of_control?_eq_none hcontrol] at ih
      simp [Exchange.sight?, hcontrol, ih]
    | some control =>
      rw [callsAfter_of_control? hcontrol] at ih
      simp [Exchange.sight?, hcontrol, ih, Control.run, answer_of_control? hcontrol store p,
        hanswers.calls, callsAfter_of_control? hcontrol]

theorem Session.answer_ne_crashed {store : Store σ} {p q : Pipeline σ}
    {exchanges : List (Exchange σ)} (h : Session store p exchanges q) :
    ∀ x ∈ exchanges, x.answer ≠ .moved .crashed := by
  induction h with
  | done p => exact List.forall_mem_nil _
  | @next p request q exchanges r hanswers hrest ih =>
    exact List.forall_mem_cons.mpr ⟨step_answer_ne_crashed store p request, ih⟩

/-- Two sessions in which the same calls are made and asked for the same states at the same clock
readings look the same to those who ask, the names of the calls apart: each request has the same
answer and leaves the calls the same. Their dispatchers, writers and stores may differ in any way, as
may all else that is asked in between. No answer is ever that a listener crashed. -/
theorem call_control_is_isolated {τ : Type} {store : Store σ} {store' : Store τ}
    {p q : Pipeline σ} {p' q' : Pipeline τ} {xs : List (Exchange σ)} {ys : List (Exchange τ)}
    (hxs : Session store p xs q) (hys : Session store' p' ys q')
    (hcalls : p.calls.map Call.nameless = p'.calls.map Call.nameless)
    (hcontrol : xs.filterMap (·.request.control?) = ys.filterMap (·.request.control?)) :
    xs.filterMap Exchange.sight? = ys.filterMap Exchange.sight? ∧
      ∀ x ∈ xs, x.answer ≠ .moved .crashed := by
  constructor
  · rw [hxs.sights, hys.sights, hcalls, hcontrol]
  · exact hxs.answer_ne_crashed

/-- A call rings, is refused the wrong state and ends, once in front of a store that crashes and a
queue that is full, and once where the writer has been killed and the policy is another. -/
theorem call_control_is_isolated_crash_and_kill :
    let record : Record := .make none (some "5") .allowed .incoming 0 0
    let call (id : Nat) : Call := .start (.ofNat id) true (some (.tel "5")) ⟨0, by decide, by decide⟩
    let ring : Request := .set 0 .ringing ⟨1, by decide, by decide⟩
    let hold : Request := .set 0 .onHold ⟨2, by decide, by decide⟩
    let finish : Request := .set 0 .aborted ⟨3, by decide, by decide⟩
    let memory : Memory := { supply := ⟨Uuid.ofNat, fun _ => default, 0⟩ }
    let p : Pipeline Memory :=
      { dispatcher := ⟨⟨false⟩, .standard⟩, writer := { capacity := 1, workers := 1 }, store := memory }
    let q : Pipeline Memory :=
      { dispatcher := ⟨⟨true⟩, .ofList ["5"]⟩, writer := { capacity := 3, workers := 2 },
        store := { memory with locked := true } }
    let crashing := Memory.store.behind [("5", .crash)]
    let xs := exchanges crashing [.add (call 1), ring, .log record, .drain, .submit [record], hold,
      finish, .shutdown] p
    let ys := exchanges Memory.store [.add (call 2), .kill, ring, .lock false, hold, .drain, finish] q
    xs.filterMap Exchange.sight? = ys.filterMap Exchange.sight? ∧
      (∀ x ∈ xs, x.answer ≠ .moved .crashed) ∧
      (xs.filterMap Exchange.sight?).map (·.2.map Call.state) =
        [[.new], [.ringing], [.ringing], [.aborted]] := by
  intro record call ring hold finish memory p q crashing xs ys
  have hxs : Session crashing p xs _ := session_run crashing _ (by decide)
  have hys : Session Memory.store q ys _ := session_run Memory.store _ (by decide)
  obtain ⟨hsights, hcrashed⟩ := call_control_is_isolated hxs hys rfl (by decide)
  exact ⟨hsights, hcrashed, by decide⟩

end Pipeline
end CallHistory
