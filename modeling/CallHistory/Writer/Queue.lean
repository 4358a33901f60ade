import CallHistory.Writer.Batch

/-! # The writer

A writer queues batches and has a pool of workers write them. The queue holds `capacity` batches;
a batch that finds it full is refused and counted as dropped. Stopping a writer writes what is
queued; killing it leaves the queue as it is, and nothing of it is ever written.
-/

namespace CallHistory

inductive WriterPhase where
  | running
  | stopped
  /-- The workers were cancelled; `joined` once the writer has waited for them. -/
  | killed (joined : Bool)
  deriving DecidableEq, Repr

/-- The queue in front of a pool of workers, and its counts. -/
structure Writer where
  capacity : Nat
  workers : Nat
  phase : WriterPhase := .running
  /-- Whether the workers have begun to run. -/
  begun : Bool := false
  queue : List (List Record) := []
  stats : WriterStats := {}

namespace Writer

def maxCapacity : Nat := 2305843009213693951

/-- The largest number of workers: the list of them takes eight bytes for each, and no list takes
more bytes than a signed word of 64 bits can count. -/
def maxWorkers : Nat := 1152921504606846975

/-- A writer with an empty queue. There is at least one worker and room for one batch; no writer
starts with a capacity or a number of workers beyond the largest. -/
def start? (workers capacity : Nat) : Option (Step Writer Unit) :=
  let workers := max workers 1
  let capacity := max capacity 1
  if capacity ≤ maxCapacity ∧ workers ≤ maxWorkers then
    some ⟨(), { capacity, workers }, .of [.writerStarted workers capacity]⟩
  else none

/-- Queues a batch without waiting for it. An empty batch takes no room. -/
def submit (batch : List Record) (w : Writer) : Step Writer (Except SubmitError Unit) :=
  if batch.isEmpty then ⟨.ok (), w, {}⟩
  else if w.phase ≠ .running then ⟨.error .stopped, w, {}⟩
  else
    let count := batch.length
    if w.queue.length < w.capacity then
      ⟨.ok (), { w with
        queue := w.queue ++ [batch]
        stats := { w.stats with submitted := w.stats.submitted + .ofNat count } }, {}⟩
    else
      ⟨.error (.queueFull count),
        { w with stats := { w.stats with dropped := w.stats.dropped + .ofNat count } },
        .count { dropped := .ofNat count } ++ .of [.queueFull count]⟩

def settle (stats : WriterStats) (outcomes : List Outcome) : WriterStats :=
  { stats with
    persisted := stats.persisted + .ofNat (Outcome.successes outcomes)
    failed := stats.failed + .ofNat (Outcome.failures outcomes) }

/-- What is counted and reported once a batch with these outcomes has been written. -/
def settled (outcomes : List Outcome) : Report :=
  .count {
    written := .ofNat (Outcome.successes outcomes)
    failed := .ofNat (Outcome.failures outcomes) } ++ .of (Outcome.warnings outcomes)

variable {σ : Type}

/-- Writes batches in order, one worker's work. -/
def work (store : Store σ) : List (List Record) → WriterStats × σ → Step (WriterStats × σ) Unit
  | [], s => ⟨(), s, {}⟩
  | batch :: rest, (stats, s) =>
    let written := store.writeAll batch s
    let others := work store rest (settle stats written.answer, written.state)
    ⟨(), others.state, written.report ++ settled written.answer ++ others.report⟩

/-- The report of workers that begin to run, unless they already have. -/
def beginning (w : Writer) : List Report.Event :=
  if w.begun then [] else (List.range w.workers).map .workerRunning

def drain (store : Store σ) : Writer × σ → Step (Writer × σ) Unit
  | (w, s) =>
    if w.phase = .running then
      let done := work store w.queue (w.stats, s)
      ⟨(), ({ w with begun := true, queue := [], stats := done.state.1 }, done.state.2),
        .of w.beginning ++ done.report⟩
    else ⟨(), (w, s), {}⟩

def joining (w : Writer) : List Report.Event :=
  match w.phase with
  | .running => (List.range w.workers).map .workerExiting
  | .stopped | .killed true => []
  | .killed false => (List.range w.workers).map .workerLost

/-- Takes no further batches and waits until everything queued has been written. -/
def shutdown (store : Store σ) (s : Writer × σ) : Step (Writer × σ) Unit :=
  let drained := drain store s
  let (w, t) := drained.state
  let phase := match w.phase with
    | .running | .stopped => .stopped
    | .killed _ => .killed true
  ⟨(), ({ w with phase }, t), drained.report ++ .of (w.joining ++ [.writerStopped w.stats])⟩

/-- Cancels the workers. What is queued is lost. -/
def kill (w : Writer) : Writer :=
  if w.phase = .running then { w with phase := .killed false } else w

end Writer
end CallHistory
