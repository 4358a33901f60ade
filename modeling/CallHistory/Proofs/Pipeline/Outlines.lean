import CallHistory.Proofs.Pipeline.Offers

/-! # Requests without numbers

The outline of a request is what is left of it without numbers, handles and contacts, and without the
names that calls were given by chance. Of a record that the request brings to the log, the outline
also has the look: the fingerprint of the number, whether it is one of an emergency call, and the fate
of the record at the store. Records that go to the writer directly have nothing but their fates.
-/

namespace CallHistory

variable {σ φ : Type}

def CallInfo.faceless (info : CallInfo) : CallInfo := { info with handle := none }

def Transition.faceless (t : Transition) : Transition := { t with call := t.call.faceless }

def Call.faceless (c : Call) : Call := { c with id := default, handle := none }

namespace Call

variable {c c' : Call}

theorem moved_congr (h : c.faceless = c'.faceless) (target : CallState) (now : Instant) :
    (c.moved target now).faceless = (c'.moved target now).faceless := by
  have hcomm (c : Call) : (c.moved target now).faceless = c.faceless.moved target now := rfl
  rw [hcomm, hcomm, h]

theorem transition_congr (h : c.faceless = c'.faceless) (target : CallState) (now : Instant) :
    Transition.faceless ⟨(c.moved target now).info now, c.state, target⟩ =
      Transition.faceless ⟨(c'.moved target now).info now, c'.state, target⟩ := by
  have hcomm (c : Call) : Transition.faceless ⟨(c.moved target now).info now, c.state, target⟩ =
      ⟨(c.faceless.moved target now).info now, c.faceless.state, target⟩ := rfl
  rw [hcomm, hcomm, h]

end Call

/-- A record without its number and the details of the other side. -/
def Record.faceless (r : Record) : Record := { r with contact := none, number := none }

namespace Request

def faceless : Request → Request
  | .add call => .add call.faceless
  | .notify t => .notify t.faceless
  | .handle t => .handle t.faceless
  | .log r => .log r.faceless
  | .submit batch => .submit (batch.map Record.faceless)
  | request => request

def handed : Request → List Record
  | .submit batch => batch
  | _ => []

/-- Requests that are the same without numbers. -/
inductive Twins : Request → Request → Prop
  | add {c c'} (hcall : c.faceless = c'.faceless) : Twins (.add c) (.add c')
  | set (index target now) : Twins (.set index target now) (.set index target now)
  | notify {t t'} (ht : t.faceless = t'.faceless) : Twins (.notify t) (.notify t')
  | handle {t t'} (ht : t.faceless = t'.faceless) : Twins (.handle t) (.handle t')
  | log {r r'} (hr : r.faceless = r'.faceless) : Twins (.log r) (.log r')
  | submit {batch batch'} (hbatch : batch.map Record.faceless = batch'.map Record.faceless) :
    Twins (.submit batch) (.submit batch')
  | lock (locked) : Twins (.lock locked) (.lock locked)
  | drain : Twins .drain .drain
  | shutdown : Twins .shutdown .shutdown
  | kill : Twins .kill .kill

theorem twins_of_faceless {request request' : Request} (h : request.faceless = request'.faceless) :
    Twins request request' := by
  cases request with
  | add c => cases request' with
    | add c' => exact .add (Request.add.inj h)
    | _ => cases h
  | set index target now => cases request' with
    | set index' target' now' =>
      obtain ⟨rfl, rfl, rfl⟩ := Request.set.inj h
      exact .set _ _ _
    | _ => cases h
  | notify t => cases request' with
    | notify t' => exact .notify (Request.notify.inj h)
    | _ => cases h
  | handle t => cases request' with
    | handle t' => exact .handle (Request.handle.inj h)
    | _ => cases h
  | log r => cases request' with
    | log r' => exact .log (Request.log.inj h)
    | _ => cases h
  | submit batch => cases request' with
    | submit batch' => exact .submit (Request.submit.inj h)
    | _ => cases h
  | lock locked => cases request' with
    | lock locked' =>
      obtain rfl := Request.lock.inj h
      exact .lock _
    | _ => cases h
  | drain => cases request' with
    | drain => exact .drain
    | _ => cases h
  | shutdown => cases request' with
    | shutdown => exact .shutdown
    | _ => cases h
  | kill => cases request' with
    | kill => exact .kill
    | _ => cases h

end Request

/-- What is seen of a record that is brought to the log. -/
structure Look (φ : Type) where
  /-- The fingerprint of the number, if the record has one. -/
  fingerprint : Option String
  emergency : Bool
  fate : φ
  deriving DecidableEq

structure Outline (φ : Type) where
  request : Request
  /-- The look of the record that the request brings to the log, if it brings one. -/
  brought : Option (Look φ)
  /-- The fates of the records that it hands to the writer directly. -/
  handed : List φ
  deriving DecidableEq

namespace Dispatcher

def look (d : Dispatcher) (fate : Record → φ) (r : Record) : Look φ :=
  ⟨r.number.map Report.fingerprint, d.isEmergency r, fate r⟩

theorem recordOf?_faceless (t : Transition) :
    (recordOf? t).map Record.faceless = recordOf? t.faceless := by
  have hterminal : t.faceless.isTerminal = t.isTerminal := rfl
  unfold recordOf?
  rw [hterminal]
  split <;> rfl

end Dispatcher

namespace Pipeline

def outline (fate : Record → φ) (p : Pipeline σ) (request : Request) : Outline φ :=
  ⟨request.faceless, (p.offer? request).map (p.dispatcher.look fate), request.handed.map fate⟩

/-- The outlines of requests in order. Which records they bring to the log is up to the calls. -/
def outlines (fate : Record → φ) : List Request → Pipeline σ → List (Outline φ)
  | [], _ => []
  | request :: rest, p =>
    p.outline fate request :: outlines fate rest { p with calls := callsAfter p.calls request }

theorem outlines_congr (fate : Record → φ) (requests : List Request) {p q : Pipeline σ}
    (hdispatcher : q.dispatcher = p.dispatcher) (hcalls : q.calls = p.calls) :
    outlines fate requests q = outlines fate requests p := by
  induction requests generalizing p q with
  | nil => rfl
  | cons request rest ih =>
    have hfirst : q.outline fate request = p.outline fate request := by
      unfold outline
      rw [offer?_of_calls hcalls, hdispatcher]
    have hrest := @ih { p with calls := callsAfter p.calls request }
      { q with calls := callsAfter q.calls request } hdispatcher (by rw [hcalls])
    rw [outlines, outlines, hfirst, hrest]

theorem offer?_set {p : Pipeline σ} {index : Nat} {target : CallState} {c : Call}
    (hcall : p.calls[index]? = some c) (hmove : c.state.canMoveTo target = true) (now : Instant) :
    p.offer? (.set index target now) =
      Dispatcher.recordOf? ⟨(c.moved target now).info now, c.state, target⟩ := by
  let q : MoveRequest := ⟨index, target, now⟩
  change (q.ending? p.calls).map Ending.entry = _
  cases hending : q.ending? p.calls with
  | none =>
    have hmover : q.mover? p.calls = some c := MoveRequest.mover?_eq_some.mpr ⟨hcall, hmove⟩
    exact (recordOf?_of_ending?_eq_none hending hmover _).symm
  | some e =>
    obtain ⟨c', hcall', -, hrecord⟩ := recordOf?_of_ending? hending
    obtain rfl : c' = c := Option.some.inj (hcall'.symm.trans hcall)
    exact hrecord.symm

end Pipeline
end CallHistory
