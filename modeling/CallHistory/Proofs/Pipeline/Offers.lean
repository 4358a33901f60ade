import CallHistory.Proofs.Pipeline.Trace
import CallHistory.Proofs.Store.Laws

/-! # What is brought to the log

Whatever leads a record into the history goes by way of the dispatcher's log, except for a batch that
is handed to the writer directly. Which record a request brings there depends on the calls alone; the
log answers by policy and by what the writer makes of it. What the log suppresses is what a run
counts as suppressed.
-/

namespace CallHistory

variable {σ : Type}

namespace Dispatcher

def recordOf? (t : Transition) : Option Record :=
  if t.isTerminal then some (record t) else none

theorem batchOf?_eq (d : Dispatcher) (t : Transition) : d.batchOf? t = (recordOf? t).bind d.batch? := by
  unfold batchOf? recordOf?
  split <;> rfl

theorem batch?_eq_some {d : Dispatcher} {r : Record} {batch : List Record} :
    d.batch? r = some batch ↔ d.policy.permits (d.isEmergency r) = true ∧ [r] = batch := by
  simp [batch?]

/-- The record of a transition that ended a call is logged once. -/
theorem handle_of_recordOf? (d : Dispatcher) (submit : Submitter σ) {t : Transition} {r : Record}
    (h : recordOf? t = some r) (s : σ) :
    d.handle submit t s = ⟨(d.log submit r s).answer.map some, (d.log submit r s).state,
      .of [.numberChosen r.number] ++ (d.log submit r s).report⟩ := by
  unfold recordOf? at h
  split at h
  · rename_i hterminal
    cases h
    exact if_pos hterminal
  · cases h

theorem handle_of_recordOf?_eq_none (d : Dispatcher) (submit : Submitter σ) {t : Transition}
    (h : recordOf? t = none) (s : σ) : d.handle submit t s = ⟨.done none, s, {}⟩ := by
  unfold recordOf? at h
  split at h
  · cases h
  · rename_i hlive
    exact if_neg hlive

end Dispatcher

theorem recordOf?_of_ending? {q : MoveRequest} {calls : List Call} {e : Ending}
    (h : q.ending? calls = some e) :
    ∃ c, calls[q.call]? = some c ∧ c.state.canMoveTo q.target = true ∧
      Dispatcher.recordOf? ⟨(c.moved q.target q.now).info q.now, c.state, q.target⟩ =
        some e.entry := by
  unfold MoveRequest.ending? at h
  split at h
  · rename_i hterminal
    obtain ⟨c, hmover, rfl⟩ := Option.map_eq_some_iff.mp h
    obtain ⟨hcall, hmove⟩ := MoveRequest.mover?_eq_some.mp hmover
    refine ⟨c, hcall, hmove, ?_⟩
    rw [← (Ending.mk q c).record_eq_entry hterminal]
    exact if_pos hterminal
  · cases h

theorem recordOf?_of_ending?_eq_none {q : MoveRequest} {calls : List Call} {c : Call}
    (h : q.ending? calls = none) (hmover : q.mover? calls = some c) (info : CallInfo) :
    Dispatcher.recordOf? ⟨info, c.state, q.target⟩ = none := by
  unfold MoveRequest.ending? at h
  split at h
  · rw [hmover] at h
    cases h
  · rename_i hlive
    exact if_neg hlive

/-- Whether policy lets a record with this number through. -/
def Dispatcher.Admits (d : Dispatcher) (number : Option String) : Prop :=
  d.policy.permits (number.any d.emergency.recognizes) = true

def Order.IsPermitted (d : Dispatcher) : Order → Prop
  | .send batch => ∀ r ∈ batch, d.Admits r.number
  | .lock _ | .drain | .shutdown | .kill => True

namespace Pipeline

/-- The record that a request brings to the log, if it brings one. -/
def offer? (p : Pipeline σ) : Request → Option Record
  | .set index target now => (MoveRequest.ending? ⟨index, target, now⟩ p.calls).map Ending.entry
  | .notify t | .handle t => Dispatcher.recordOf? t
  | .log r => some r
  | .add _ | .submit _ | .lock _ | .drain | .shutdown | .kill => none

/-- The order of a request that goes to the writer or the store directly. -/
def direct? : Request → Option Order
  | .submit batch => some (.send batch)
  | .lock locked => some (.lock locked)
  | .drain => some .drain
  | .shutdown => some .shutdown
  | .kill => some .kill
  | .add _ | .set .. | .notify _ | .handle _ | .log _ => none

theorem offer?_of_calls {p q : Pipeline σ} (h : q.calls = p.calls) (request : Request) :
    q.offer? request = p.offer? request := by
  unfold offer?
  rw [h]

theorem direct?_of_offer? {p : Pipeline σ} {request : Request} {r : Record}
    (h : p.offer? request = some r) : direct? request = none := by
  cases request with
  | set index target now => rfl
  | notify t => rfl
  | handle t => rfl
  | log r => rfl
  | _ => cases h

theorem direct?_ne_send {request : Request} {order : Order} {batch : List Record}
    (h : direct? request = some order) (hsubmit : request ≠ .submit batch) :
    order ≠ .send batch := by
  rintro rfl
  cases request with
  | submit batch' =>
    cases h
    exact hsubmit rfl
  | _ => cases h

/-- A request comes to the batch of the record that it brings to the log, or to a direct order. -/
theorem order?_eq (p : Pipeline σ) (request : Request) :
    p.order? request =
      (((p.offer? request).bind p.dispatcher.batch?).map .send).or (direct? request) := by
  cases request with
  | set index target now =>
    simp only [order?, offer?, direct?, Option.or_none, Option.bind_map]
    congr 2
    funext e
    exact (Ending.batch?_entry p.dispatcher e).symm
  | notify t => simp only [order?, offer?, direct?, Option.or_none, Dispatcher.batchOf?_eq]
  | handle t => simp only [order?, offer?, direct?, Option.or_none, Dispatcher.batchOf?_eq]
  | log r => simp only [order?, offer?, direct?, Option.or_none, Option.bind_some]
  | _ => rfl

theorem order?_isPermitted {p : Pipeline σ} {request : Request} {order : Order}
    (h : p.order? request = some order) (hsubmit : ∀ batch, request ≠ .submit batch) :
    order.IsPermitted p.dispatcher := by
  rw [order?_eq, Option.or_eq_some_iff] at h
  rcases h with hsend | ⟨-, hdirect⟩
  · obtain ⟨batch, hbatch, rfl⟩ := Option.map_eq_some_iff.mp hsend
    obtain ⟨r, -, hr⟩ := Option.bind_eq_some_iff.mp hbatch
    obtain ⟨hpermits, rfl⟩ := Dispatcher.batch?_eq_some.mp hr
    intro r' hr'
    rw [List.mem_singleton.mp hr']
    exact hpermits
  · cases order with
    | send batch => exact absurd rfl (direct?_ne_send hdirect (hsubmit batch))
    | _ => trivial

def logged (p : Pipeline σ) (r : Record) : Step Writer (Attempt Dispatch) :=
  p.dispatcher.log Writer.submitter r p.writer

/-- A request that brings a record to the log brings it there once: what the log reports stands in
the report of the request, the writer is left as the log leaves it, and where the answer of the log
is passed on, it is passed on as it is. -/
theorem step_of_offer? (store : Store σ) {p : Pipeline σ} {request : Request} {r : Record}
    (h : p.offer? request = some r) :
    (p.step store request).state.writer = (p.logged r).state ∧
      (∃ before after : List Report.Event,
        (p.step store request).report = .of before ++ (p.logged r).report ++ .of after) ∧
      match (p.step store request).answer with
      | .logged reply => reply = (p.logged r).answer
      | .handled reply => reply = (p.logged r).answer.map some
      | _ => True := by
  cases request with
  | set index target now =>
    obtain ⟨e, he, rfl⟩ := Option.map_eq_some_iff.mp h
    obtain ⟨c, hcall, hmove, hentry⟩ := recordOf?_of_ending? he
    have hset := Call.setState_listening_accepted p.dispatcher Writer.submitter hmove now p.writer
    simp only [step, hcall, Dispatcher.react_eq_listening, hset, Dispatcher.listen,
      Dispatcher.handle_of_recordOf? _ _ hentry]
    let t : Transition := ⟨(c.moved target now).info now, c.state, target⟩
    refine ⟨rfl, ⟨[.callMoved c.id c.state target, .numberChosen e.entry.number],
      Dispatcher.absorbed t ((p.logged e.entry).answer.map some), ?_⟩, trivial⟩
    rw [← Report.append_assoc, ← Report.append_assoc]
    rfl
  | notify t =>
    simp only [step, Dispatcher.listen, Dispatcher.handle_of_recordOf? _ _ h]
    exact ⟨rfl, ⟨[_], _, rfl⟩, trivial⟩
  | handle t =>
    simp only [step, Dispatcher.handle_of_recordOf? _ _ h]
    exact ⟨rfl, ⟨[_], [], (Report.append_empty _).symm⟩, rfl⟩
  | log r =>
    cases h
    exact ⟨rfl, ⟨[], [], ((Report.append_empty _).trans (Report.empty_append _)).symm⟩, rfl⟩
  | _ => cases h

theorem step_of_offer?_eq_none (store : Store σ) {p : Pipeline σ} {request : Request}
    (hoffer : p.offer? request = none) (hdirect : direct? request = none) :
    (p.step store request).state.writer = p.writer ∧
      (p.step store request).report.counted = {} := by
  cases request with
  | add call => exact ⟨rfl, rfl⟩
  | set index target now =>
    have hending : MoveRequest.ending? ⟨index, target, now⟩ p.calls = none :=
      Option.map_eq_none_iff.mp hoffer
    cases hcall : p.calls[index]? with
    | none => simp [step, hcall]
    | some c =>
      cases hmove : c.state.canMoveTo target with
      | true =>
        have hrecord := recordOf?_of_ending?_eq_none hending
          (MoveRequest.mover?_eq_some.mpr ⟨hcall, hmove⟩) ((c.moved target now).info now)
        simp [step, hcall, Dispatcher.react_eq_listening,
          Call.setState_listening_accepted _ _ hmove, Dispatcher.listen,
          Dispatcher.handle_of_recordOf?_eq_none _ _ hrecord]
      | false => simp [step, hcall, Call.setState_refused _ hmove]
  | notify t => simp [step, Dispatcher.listen, Dispatcher.handle_of_recordOf?_eq_none _ _ hoffer]
  | handle t => simp [step, Dispatcher.handle_of_recordOf?_eq_none _ _ hoffer]
  | log r => cases hoffer
  | _ => cases hdirect

/-- What requests bring to the log, one after another, with the answers of the log: also those that
nobody is told. -/
def offers (store : Store σ) : List Request → Pipeline σ → List (Record × Attempt Dispatch)
  | [], _ => []
  | request :: rest, p =>
    ((p.offer? request).map fun r => (r, (p.logged r).answer)).toList ++
      offers store rest (p.step store request).state

end Pipeline

section Suppressed

variable {store : Store σ}

theorem Writer.submit_counted (w : Writer) (batch : List Record) :
    ∃ n, (w.submit batch).report.counted = { dropped := n } := by
  unfold submit
  split
  · exact ⟨0, rfl⟩
  · split
    · exact ⟨0, rfl⟩
    · split
      · exact ⟨0, rfl⟩
      · exact ⟨.ofNat batch.length, Counters.add_none _⟩

theorem Writer.submit_suppressed (w : Writer) (batch : List Record) :
    (w.submit batch).report.counted.suppressed = 0 := by
  obtain ⟨n, hn⟩ := w.submit_counted batch
  rw [hn]

theorem Writer.work_suppressed (h : store.CountsNothing) (queue : List (List Record))
    (x : WriterStats × σ) : (work store queue x).report.counted.suppressed = 0 := by
  induction queue generalizing x with
  | nil => rfl
  | cons batch rest ih =>
    rcases x with ⟨stats, s⟩
    simp only [work, Report.append_counted, Counters.add_suppressed, h.writeAll, ih]
    rfl

theorem Writer.drain_suppressed (h : store.CountsNothing) (x : Writer × σ) :
    (drain store x).report.counted.suppressed = 0 := by
  rcases x with ⟨w, s⟩
  unfold drain
  by_cases hrunning : w.phase = .running
  · simp [hrunning, work_suppressed h]
  · simp [hrunning]

namespace Pipeline

theorem submitted_ne_suppressed (answer : Except SubmitError Unit) :
    ((Attempt.ofExcept answer).map fun _ => Dispatch.submitted) ≠ .done .suppressed := by
  cases answer <;> simp [Attempt.ofExcept, Attempt.map]

theorem logged_suppressed (p : Pipeline σ) (r : Record) :
    (p.logged r).report.counted.suppressed =
      if (p.logged r).answer = .done .suppressed then 1 else 0 := by
  unfold logged Dispatcher.log
  split
  · have hcounted := p.writer.submit_suppressed [r]
    have hanswer := submitted_ne_suppressed (p.writer.submit [r]).answer
    simp [Writer.submitter, hcounted, hanswer]
  · rfl

theorem step_suppressed (h : store.CountsNothing) (p : Pipeline σ) (request : Request) :
    (p.step store request).report.counted.suppressed =
      match p.offer? request with
      | some r => if (p.logged r).answer = .done .suppressed then 1 else 0
      | none => 0 := by
  cases hoffer : p.offer? request with
  | some r =>
    obtain ⟨-, ⟨before, after, hreport⟩, -⟩ := step_of_offer? store hoffer
    simp [hreport, logged_suppressed]
  | none =>
    cases hdirect : direct? request with
    | none => simp [(step_of_offer?_eq_none store hoffer hdirect).2]
    | some order =>
      cases request with
      | submit batch => exact p.writer.submit_suppressed batch
      | lock locked => rfl
      | drain => exact Writer.drain_suppressed h (p.writer, p.store)
      | shutdown =>
        have hdrain := Writer.drain_suppressed h (p.writer, p.store)
        simp [step, Writer.shutdown, hdrain]
      | kill => rfl
      | _ => cases hdirect

/-- What a run counts as suppressed is what its log suppresses. -/
theorem run_suppressed (h : store.CountsNothing) (requests : List Request) (p : Pipeline σ) :
    (run store requests p).report.counted.suppressed =
      .ofNat ((offers store requests p).countP (·.2 = .done .suppressed)) := by
  induction requests generalizing p with
  | nil => rfl
  | cons request rest ih =>
    simp only [run, Report.append_counted, Counters.add_suppressed, ih, step_suppressed h, offers,
      List.countP_append]
    cases p.offer? request with
    | none => simp
    | some r => by_cases hlogged : (p.logged r).answer = .done .suppressed <;> simp [hlogged]

end Pipeline
end Suppressed
end CallHistory
