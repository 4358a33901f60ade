import CallHistory.Pipeline.Basic
import CallHistory.Proofs.Calls.Ending
import CallHistory.Proofs.Writer.Orders

/-! # What a pipeline does to its writer

A request comes to at most one order for the writer or the store, and which one it is depends on the
calls and the dispatcher alone. The trace of a run says what became of the orders. `Reaches` is a
run in which the workers take turns in any way wherever they run; the run of a pipeline is one.
-/

namespace CallHistory

variable {σ : Type}

theorem Dispatcher.react_eq_listening : react = listening Writer.submitter := rfl

namespace Pipeline

def order? (p : Pipeline σ) : Request → Option Order
  | .add _ => none
  | .set index target now =>
    ((MoveRequest.ending? ⟨index, target, now⟩ p.calls).bind (Ending.batch? p.dispatcher)).map .send
  | .notify t | .handle t => (p.dispatcher.batchOf? t).map .send
  | .log r => (p.dispatcher.batch? r).map .send
  | .submit batch => some (.send batch)
  | .lock locked => some (.lock locked)
  | .drain => some .drain
  | .shutdown => some .shutdown
  | .kill => some .kill

def callsAfter (calls : List Call) : Request → List Call
  | .add call => calls ++ [call]
  | .set index target now => MoveRequest.apply ⟨index, target, now⟩ calls
  | _ => calls

def obeyed (store : Store σ) (x : Writer × σ) : Option Order → Writer × σ
  | some order => Writer.obey store order x
  | none => x

theorem given_submitter (store : Store σ) (w : Writer) (s : σ) (batch? : Option (List Record)) :
    (Dispatcher.given Writer.submitter w batch?, s) = obeyed store (w, s) (batch?.map .send) := by
  cases batch? <;> rfl

theorem step_set (store : Store σ) (p : Pipeline σ) (index : Nat) (target : CallState)
    (now : Instant) :
    let q : MoveRequest := ⟨index, target, now⟩
    let served := q.serve (Dispatcher.listening Writer.submitter) (p.calls, [p.dispatcher], p.writer)
    (p.step store (.set index target now)).state =
      { p with calls := served.1, writer := served.2.2 } := by
  intro q served
  cases hcall : p.calls[index]? with
  | none => simp [served, q, MoveRequest.serve, step, hcall]
  | some call => simp [served, q, MoveRequest.serve, step, hcall, Dispatcher.react_eq_listening]

/-- All that a request does: it moves the calls, and the writer and the store obey its order. -/
theorem step_state (store : Store σ) (p : Pipeline σ) (request : Request) :
    (p.step store request).state.dispatcher = p.dispatcher ∧
      (p.step store request).state.calls = callsAfter p.calls request ∧
      ((p.step store request).state.writer, (p.step store request).state.store) =
        obeyed store (p.writer, p.store) (p.order? request) := by
  cases request with
  | add call => exact ⟨rfl, rfl, rfl⟩
  | set index target now =>
    rw [step_set, serve_listening]
    exact ⟨rfl, rfl, given_submitter store p.writer p.store _⟩
  | notify t =>
    refine ⟨rfl, rfl, ?_⟩
    simp only [step, Dispatcher.listen_state, given_submitter store, order?]
  | handle t =>
    refine ⟨rfl, rfl, ?_⟩
    simp only [step, Dispatcher.handle_state, given_submitter store, order?]
  | log r =>
    refine ⟨rfl, rfl, ?_⟩
    simp only [step, Dispatcher.log_state, given_submitter store, order?]
  | submit batch => exact ⟨rfl, rfl, rfl⟩
  | lock locked => exact ⟨rfl, rfl, rfl⟩
  | drain => exact ⟨rfl, rfl, rfl⟩
  | shutdown => exact ⟨rfl, rfl, rfl⟩
  | kill => exact ⟨rfl, rfl, rfl⟩

/-- What became of a request at the writer and the store. -/
def mark? (p : Pipeline σ) (request : Request) : Option Mark :=
  (p.order? request).map p.writer.mark

def marks (store : Store σ) : List Request → Pipeline σ → List Mark
  | [], _ => []
  | request :: rest, p =>
    (p.mark? request).toList ++ marks store rest (p.step store request).state

/-- A request is answered; where it lets the workers run, they take turns in any way. -/
def Answers (store : Store σ) (p : Pipeline σ) (request : Request) (q : Pipeline σ) : Prop :=
  match request with
  | .drain =>
    ∃ x, Writer.Drains store (p.writer, p.store) x ∧ q = { p with writer := x.1, store := x.2 }
  | .shutdown =>
    ∃ x, Writer.Drains store (p.writer, p.store) x ∧
      q = { p with writer := x.1.close, store := x.2 }
  | request => q = (p.step store request).state

/-- A state that requests can lead to, with the trace on the way. -/
inductive Reaches (store : Store σ) (p : Pipeline σ) : List Request → List Mark → Pipeline σ → Prop
  | start : Reaches store p [] [] p
  | next {requests marks q request r} (hreaches : Reaches store p requests marks q)
    (hanswers : Answers store q request r) :
    Reaches store p (requests ++ [request]) (marks ++ (q.mark? request).toList) r

theorem Answers.obeys {store : Store σ} {p q : Pipeline σ} {request : Request}
    (h : Answers store p request q) :
    (p.order? request = none ∧ (q.writer, q.store) = (p.writer, p.store)) ∨
      ∃ order, p.order? request = some order ∧
        Writer.Obeys store order (p.writer, p.store) (q.writer, q.store) := by
  have hstep (hq : q = (p.step store request).state) :
      (q.writer, q.store) = obeyed store (p.writer, p.store) (p.order? request) := by
    rw [hq]
    exact (step_state store p request).2.2
  have hsend {batch? : Option (List Record)} (horder : p.order? request = batch?.map .send)
      (hq : q = (p.step store request).state) :
      (p.order? request = none ∧ (q.writer, q.store) = (p.writer, p.store)) ∨
        ∃ order, p.order? request = some order ∧
          Writer.Obeys store order (p.writer, p.store) (q.writer, q.store) := by
    have hobeyed := hstep hq
    rw [horder] at hobeyed
    cases batch? with
    | none => exact .inl ⟨horder, hobeyed⟩
    | some batch => exact .inr ⟨.send batch, horder, hobeyed⟩
  cases request with
  | drain =>
    rcases h with ⟨x, hdrains, rfl⟩
    exact .inr ⟨_, rfl, hdrains⟩
  | shutdown =>
    rcases h with ⟨x, hdrains, rfl⟩
    exact .inr ⟨_, rfl, x, hdrains, rfl⟩
  | add call => exact .inl ⟨rfl, hstep h⟩
  | lock locked => exact .inr ⟨_, rfl, hstep h⟩
  | kill => exact .inr ⟨_, rfl, hstep h⟩
  | set index target now => exact hsend rfl h
  | notify t => exact hsend rfl h
  | handle t => exact hsend rfl h
  | log r => exact hsend rfl h
  | submit batch => exact @hsend (some batch) rfl h

theorem answers_step (store : Store σ) (p : Pipeline σ) (request : Request)
    (hworkers : 0 < p.writer.workers) : Answers store p request (p.step store request).state := by
  cases request with
  | drain => exact ⟨_, Writer.drains_drain store hworkers, rfl⟩
  | shutdown => exact ⟨_, Writer.drains_drain store hworkers, rfl⟩
  | _ => rfl

def phaseAfter (phase : WriterPhase) : Request → WriterPhase
  | .shutdown => phase.after .shutdown
  | .kill => phase.after .kill
  | _ => phase

theorem after_of_order? {p : Pipeline σ} {request : Request} {order : Order}
    (h : p.order? request = some order) (phase : WriterPhase) :
    phase.after order = phaseAfter phase request := by
  have hsend {batch? : Option (List Record)} (h : batch?.map Order.send = some order) :
      phase.after order = phase := by
    obtain ⟨batch, -, rfl⟩ := Option.map_eq_some_iff.mp h
    rfl
  cases request with
  | add call => cases h
  | set index target now => exact hsend h
  | notify t => exact hsend h
  | handle t => exact hsend h
  | log r => exact hsend h
  | submit batch => exact @hsend (some batch) h
  | lock locked =>
    cases h
    rfl
  | drain =>
    cases h
    rfl
  | shutdown =>
    cases h
    rfl
  | kill =>
    cases h
    rfl

theorem phaseAfter_of_order?_eq_none {p : Pipeline σ} {request : Request}
    (h : p.order? request = none) (phase : WriterPhase) : phaseAfter phase request = phase := by
  cases request with
  | shutdown => cases h
  | kill => cases h
  | _ => rfl

/-- A request changes the phase of the writer by itself, and never the size of the pool. -/
theorem Answers.frame {store : Store σ} {p q : Pipeline σ} {request : Request}
    (h : Answers store p request q) :
    q.writer.phase = phaseAfter p.writer.phase request ∧ q.writer.workers = p.writer.workers := by
  rcases h.obeys with ⟨hnone, hsame⟩ | ⟨order, horder, hobeys⟩
  · obtain ⟨hwriter, -⟩ := Prod.mk.inj hsame
    rw [hwriter, phaseAfter_of_order?_eq_none hnone]
    exact ⟨rfl, rfl⟩
  · rw [← after_of_order? horder]
    exact hobeys.frame

theorem Reaches.phase {store : Store σ} {p q : Pipeline σ} {requests : List Request}
    {marks : List Mark} (h : Reaches store p requests marks q) :
    q.writer.phase = requests.foldl phaseAfter p.writer.phase := by
  induction h with
  | start => rfl
  | next hreaches hanswers ih =>
    rw [hanswers.frame.1, ih, List.foldl_append]
    rfl

theorem Answers.dispatcher {store : Store σ} {p q : Pipeline σ} {request : Request}
    (h : Answers store p request q) : q.dispatcher = p.dispatcher := by
  have hstep (hq : q = (p.step store request).state) : q.dispatcher = p.dispatcher := by
    rw [hq]
    exact (step_state store p request).1
  cases request with
  | drain =>
    rcases h with ⟨x, -, rfl⟩
    rfl
  | shutdown =>
    rcases h with ⟨x, -, rfl⟩
    rfl
  | _ => exact hstep h

theorem Reaches.dispatcher {store : Store σ} {p q : Pipeline σ} {requests : List Request}
    {trace : List Mark} (h : Reaches store p requests trace q) : q.dispatcher = p.dispatcher := by
  induction h with
  | start => rfl
  | next hreaches hanswers ih => exact hanswers.dispatcher.trans ih

/-- What every order that the requests can come to keeps, the run keeps. -/
theorem Reaches.induction_of_orders {store : Store σ} {P : List Mark → Writer × σ → Prop}
    {p q : Pipeline σ} {requests : List Request} {trace : List Mark}
    (h : Reaches store p requests trace q) (allowed : Order → Prop)
    (hallowed : ∀ request ∈ requests, ∀ r : Pipeline σ, r.dispatcher = p.dispatcher →
      ∀ order, r.order? request = some order → allowed order)
    (horder : ∀ {trace order x y}, Writer.Obeys store order x y → allowed order → P trace x →
      P (trace ++ [x.1.mark order]) y)
    (hstart : P [] (p.writer, p.store)) : P trace (q.writer, q.store) := by
  induction h with
  | start => exact hstart
  | @next requests trace q request r hreaches hanswers ih =>
    have hbefore := ih fun request hmem => hallowed request (List.mem_append_left _ hmem)
    unfold mark?
    rcases hanswers.obeys with ⟨hnone, hsame⟩ | ⟨order, hsome, hobeys⟩
    · rw [hnone, hsame, Option.map_none, Option.toList_none, List.append_nil]
      exact hbefore
    · have hlast : request ∈ requests ++ [request] := List.mem_append_right _ List.mem_cons_self
      rw [hsome]
      exact horder hobeys (hallowed request hlast q hreaches.dispatcher order hsome) hbefore

theorem Reaches.induction {store : Store σ} {P : List Mark → Writer × σ → Prop} {p q : Pipeline σ}
    {requests : List Request} {trace : List Mark} (h : Reaches store p requests trace q)
    (horder : ∀ {trace order x y}, Writer.Obeys store order x y → P trace x →
      P (trace ++ [x.1.mark order]) y)
    (hstart : P [] (p.writer, p.store)) : P trace (q.writer, q.store) :=
  h.induction_of_orders (fun _ => True) (fun _ _ _ _ _ _ => trivial)
    (fun hobeys _ hx => horder hobeys hx) hstart

theorem Reaches.append_run {store : Store σ} {p q : Pipeline σ} {before : List Request}
    {trace : List Mark} (h : Reaches store p before trace q) (hworkers : 0 < q.writer.workers)
    (requests : List Request) :
    Reaches store p (before ++ requests) (trace ++ marks store requests q)
      (run store requests q).state := by
  induction requests generalizing q before trace with
  | nil =>
    rw [List.append_nil, marks, List.append_nil]
    exact h
  | cons request rest ih =>
    have hanswers := answers_step store q request hworkers
    have hrest := ih (h.next hanswers) (by rw [hanswers.frame.2]; exact hworkers)
    rw [List.append_assoc, List.append_assoc] at hrest
    exact hrest

theorem reaches_run (store : Store σ) (requests : List Request) {p : Pipeline σ}
    (hworkers : 0 < p.writer.workers) :
    Reaches store p requests (marks store requests p) (run store requests p).state :=
  Reaches.start.append_run hworkers requests

theorem start?_spec {d : Dispatcher} {workers capacity : Nat} {s : σ}
    {started : Step (Pipeline σ) Unit} (h : start? d workers capacity s = some started) :
    started.state =
      { dispatcher := d
        writer := { capacity := max capacity 1, workers := max workers 1 }
        store := s } := by
  obtain ⟨writer, hwriter, rfl⟩ := Option.map_eq_some_iff.mp h
  simp only [Writer.start?, Option.ite_none_right_eq_some, Option.some.injEq] at hwriter
  rw [← hwriter.2]

end Pipeline
end CallHistory
