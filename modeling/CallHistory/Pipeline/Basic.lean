import CallHistory.Call.Listeners
import CallHistory.Record.Dispatch
import CallHistory.Writer.Queue

/-! # The pipeline

Calls are followed by a dispatcher, the dispatcher hands records to a writer, and the writer's
workers put them into a store. A pipeline is driven by requests; the workers run only where a
request lets them.
-/

namespace CallHistory

/-- Calls, dispatcher, writer and store together. -/
structure Pipeline (σ : Type) where
  dispatcher : Dispatcher
  calls : List Call := []
  writer : Writer
  store : σ

inductive Request where
  /-- A new call. -/
  | add (call : Call)
  /-- A new state for the call with this index. -/
  | set (index : Nat) (target : CallState) (now : Instant)
  /-- Tells the dispatcher of a transition, as a listener. -/
  | notify (transition : Transition)
  /-- Hands the dispatcher a transition and waits for its answer. -/
  | handle (transition : Transition)
  | log (record : Record)
  | submit (batch : List Record)
  | lock (locked : Bool)
  | drain
  | shutdown
  | kill
  deriving DecidableEq

inductive Answer where
  | done
  | added (index : Nat)
  | moved (result : Moved)
  | noCall
  | handled (result : Attempt (Option Dispatch))
  | logged (result : Attempt Dispatch)
  | submitted (result : Except SubmitError Unit)

namespace Writer

def submitter : Submitter Writer := fun batch w =>
  let sent := w.submit batch
  ⟨.ofExcept sent.answer, sent.state, sent.report⟩

end Writer

namespace Dispatcher

def react : Behaviour Dispatcher Writer := fun _ d t w =>
  let told := d.listen Writer.submitter t w
  { state := told.state, report := told.report }

end Dispatcher

namespace Pipeline

variable {σ : Type}

/-- A pipeline whose writer has started and whose dispatcher has been registered. -/
def start? (dispatcher : Dispatcher) (workers capacity : Nat) (store : σ) :
    Option (Step (Pipeline σ) Unit) :=
  (Writer.start? workers capacity).map fun started =>
    ⟨(), { dispatcher, writer := started.state, store },
      started.report ++ (register dispatcher []).report⟩

def step (store : Store σ) (p : Pipeline σ) : Request → Step (Pipeline σ) Answer
  | .add call => ⟨.added p.calls.length, { p with calls := p.calls ++ [call] }, {}⟩
  | .set index target now =>
    match p.calls[index]? with
    | none => ⟨.noCall, p, {}⟩
    | some call =>
      let set := call.setState Dispatcher.react target now ([p.dispatcher], p.writer)
      let (moved, _, writer) := set.state
      ⟨.moved set.answer, { p with calls := p.calls.set index moved, writer }, set.report⟩
  | .notify t =>
    let told := p.dispatcher.listen Writer.submitter t p.writer
    ⟨.done, { p with writer := told.state }, told.report⟩
  | .handle t =>
    let handled := p.dispatcher.handle Writer.submitter t p.writer
    ⟨.handled handled.answer, { p with writer := handled.state }, handled.report⟩
  | .log r =>
    let logged := p.dispatcher.log Writer.submitter r p.writer
    ⟨.logged logged.answer, { p with writer := logged.state }, logged.report⟩
  | .submit batch =>
    let sent := p.writer.submit batch
    ⟨.submitted sent.answer, { p with writer := sent.state }, sent.report⟩
  | .lock b => ⟨.done, { p with store := store.lock b p.store }, {}⟩
  | .drain =>
    let drained := Writer.drain store (p.writer, p.store)
    ⟨.done, { p with writer := drained.state.1, store := drained.state.2 }, drained.report⟩
  | .shutdown =>
    let stopped := Writer.shutdown store (p.writer, p.store)
    ⟨.done, { p with writer := stopped.state.1, store := stopped.state.2 }, stopped.report⟩
  | .kill => ⟨.done, { p with writer := p.writer.kill }, {}⟩

def run (store : Store σ) : List Request → Pipeline σ → Step (Pipeline σ) (List Answer)
  | [], p => ⟨[], p, {}⟩
  | request :: rest, p =>
    let first := p.step store request
    let others := run store rest first.state
    ⟨first.answer :: others.answer, others.state, first.report ++ others.report⟩

end Pipeline
end CallHistory
