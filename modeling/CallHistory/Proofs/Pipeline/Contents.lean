import CallHistory.Proofs.Pipeline.Trace
import CallHistory.Proofs.Store.Laws
import CallHistory.Proofs.Writer.Accounts

/-! # What a single worker stores

Whether a batch is queued is decided when it is handed over, whether its records are stored when the
worker runs. Between two runs of the worker lies a round: what was queued in it is stored in order,
less what has a fault, unless the store is locked when the worker runs.
-/

namespace CallHistory

/-- What a worker finds when it runs: the lock and the records that are queued. -/
structure Round where
  locked : Bool
  records : List Record

def Round.stored (faults : Faults) (r : Round) : List Record :=
  if r.locked then [] else r.records.filter faults.spares

theorem Round.stored_eq_filter (faults : Faults) (r : Round) :
    r.stored faults = r.records.filter fun x => !r.locked && faults.spares x := by
  unfold Round.stored
  cases r.locked <;> simp

/-- The rounds of a trace so far, with the lock and the records queued since the last of them. -/
structure Rounds where
  locked : Bool
  waiting : List Record := []
  past : List Round := []

namespace Rounds

def next (r : Rounds) : Mark → Rounds
  | .sent batch (.ok _) => { r with waiting := r.waiting ++ batch }
  | .sent _ (.error _) => r
  | .locked locked => { r with locked }
  | .flushed => { r with waiting := [], past := r.past ++ [⟨r.locked, r.waiting⟩] }
  | .killed _ => { r with waiting := [] }

def ofTrace (locked : Bool) (trace : List Mark) : Rounds := trace.foldl next { locked }

theorem ofTrace_snoc (locked : Bool) (trace : List Mark) (m : Mark) :
    ofTrace locked (trace ++ [m]) = (ofTrace locked trace).next m := by
  simp [ofTrace]

end Rounds

namespace Writer

variable {faults : Faults} {m : Memory} {trace : List Mark}

/-- The one worker, what is waiting and what the memory store holds agree with the rounds. -/
structure InRounds (faults : Faults) (m : Memory) (trace : List Mark) (x : Writer × Memory) :
    Prop where
  single : x.1.workers = 1
  lock : x.2.locked = (Rounds.ofTrace m.locked trace).locked
  waiting : x.1.waiting.flatten = (Rounds.ofTrace m.locked trace).waiting
  stored : x.2.records =
    m.records ++ (Rounds.ofTrace m.locked trace).past.flatMap (Round.stored faults)

theorem inRounds_new (faults : Faults) (m : Memory) (capacity : Nat) :
    InRounds faults m [] ({ capacity, workers := 1 }, m) where
  single := rfl
  lock := rfl
  waiting := rfl
  stored := (List.append_nil _).symm

/-- When the worker runs, a round ends and is stored; otherwise it ends with nothing waiting. -/
theorem InRounds.drains {x y : Writer × Memory} (h : InRounds faults m trace x)
    (hemptied : x.1.Emptied) (hdrains : Drains (Memory.store.behind faults) x y) :
    InRounds faults m (trace ++ [.flushed]) y := by
  rcases x with ⟨w, s⟩
  rcases h with ⟨hsingle, hlock, hwaiting, hstored⟩
  have hround := Rounds.ofTrace_snoc m.locked trace .flushed
  by_cases hrunning : w.phase = .running
  · have hqueue : w.queue.flatten = (Rounds.ofTrace m.locked trace).waiting := by
      rw [← waiting_running hrunning]
      exact hwaiting
    rw [hdrains.eq_drain hsingle, drain_running _ hrunning]
    obtain ⟨hkept, hwork⟩ := (Memory.behind_decides faults s.locked).work
      (Memory.behind_appends faults) w.queue w.stats (s := s) rfl
    constructor
    · exact hsingle
    · rw [hround]
      exact hkept.trans hlock
    · rw [hround, waiting_running]
      · rfl
      · exact hrunning
    · rw [hround]
      change Memory.records _ = m.records ++ (_ ++ [_]).flatMap _
      rw [List.flatMap_append, List.flatMap_singleton, ← List.append_assoc, ← hstored]
      rw [Round.stored_eq_filter, ← hlock, ← hqueue]
      exact hwork
  · have hnone : w.waiting = [] := hemptied.waiting hrunning
    rw [hnone] at hwaiting
    rw [hdrains.eq_drain hsingle, drain_idle _ hrunning]
    constructor
    · exact hsingle
    · rw [hround]
      exact hlock
    · rw [hround, hnone]
      rfl
    · rw [hround]
      change Memory.records _ = m.records ++ (_ ++ [_]).flatMap _
      rw [List.flatMap_append, List.flatMap_singleton, ← List.append_assoc, ← hstored]
      rw [Round.stored_eq_filter, ← hwaiting]
      exact (List.append_nil _).symm

theorem InRounds.still {x : Writer × Memory} (h : InRounds faults m trace x) {mark : Mark}
    (hmark : ∀ r : Rounds, r.next mark = r) : InRounds faults m (trace ++ [mark]) x := by
  have hround : Rounds.ofTrace m.locked (trace ++ [mark]) = Rounds.ofTrace m.locked trace := by
    rw [Rounds.ofTrace_snoc, hmark]
  constructor
  · exact h.single
  · rw [hround]
    exact h.lock
  · rw [hround]
    exact h.waiting
  · rw [hround]
    exact h.stored

theorem InRounds.submit {w : Writer} {s : Memory} (h : InRounds faults m trace (w, s))
    (batch : List Record) :
    InRounds faults m (trace ++ [.sent batch (w.submit batch).answer])
      ((w.submit batch).state, s) := by
  rcases submit_cases w batch with ⟨rfl, hsubmit⟩ | ⟨-, hsubmit⟩ |
    ⟨hrunning, -, hanswer, hstate⟩ | ⟨-, -, hanswer, hstate⟩
  · rw [hsubmit]
    exact h.still fun r => by simp [Rounds.next]
  · rw [hsubmit]
    exact h.still fun _ => rfl
  · rw [hanswer, hstate]
    have hround := Rounds.ofTrace_snoc m.locked trace (.sent batch (.ok ()))
    have hqueue : w.queue.flatten = (Rounds.ofTrace m.locked trace).waiting := by
      rw [← waiting_running hrunning]
      exact h.waiting
    constructor
    · exact h.single
    · rw [hround]
      exact h.lock
    · rw [hround, waiting_running]
      · rw [List.flatten_append, List.flatten_singleton, hqueue]
        rfl
      · exact hrunning
    · rw [hround]
      exact h.stored
  · rw [hanswer, hstate]
    have hcounted : InRounds faults m trace
        ({ w with stats := { w.stats with dropped := w.stats.dropped + .ofNat batch.length } }, s) :=
      ⟨h.single, h.lock, h.waiting, h.stored⟩
    exact hcounted.still fun _ => rfl

theorem InRounds.kill {w : Writer} {s : Memory} (h : InRounds faults m trace (w, s))
    (hemptied : w.Emptied) : InRounds faults m (trace ++ [.killed w.waiting]) (w.kill, s) := by
  have hround := Rounds.ofTrace_snoc m.locked trace (.killed w.waiting)
  have hwaiting : w.kill.waiting = [] := by
    unfold Writer.kill
    split
    · rfl
    · rename_i hidle
      exact hemptied.waiting hidle
  have hworkers : w.kill.workers = w.workers := by
    unfold Writer.kill
    split <;> rfl
  constructor
  · exact hworkers.trans h.single
  · rw [hround]
    exact h.lock
  · rw [hround, hwaiting]
    rfl
  · rw [hround]
    exact h.stored

theorem Obeys.inRounds {order : Order} {x y : Writer × Memory}
    (hobeys : Obeys (Memory.store.behind faults) order x y) (h : InRounds faults m trace x)
    (hemptied : x.1.Emptied) : InRounds faults m (trace ++ [x.1.mark order]) y := by
  rcases x with ⟨w, s⟩
  cases order with
  | send batch =>
    obtain rfl : y = ((w.submit batch).state, s) := hobeys
    exact h.submit batch
  | lock locked =>
    obtain rfl : y = (w, { s with locked }) := hobeys
    change InRounds faults m (trace ++ [.locked locked]) (w, { s with locked })
    have hround := Rounds.ofTrace_snoc m.locked trace (.locked locked)
    constructor
    · exact h.single
    · rw [hround]
      rfl
    · rw [hround]
      exact h.waiting
    · rw [hround]
      exact h.stored
  | drain => exact h.drains hemptied hobeys
  | shutdown =>
    rcases hobeys with ⟨z, hdrains, rfl⟩
    have hz := h.drains hemptied hdrains
    constructor
    · exact hz.single
    · exact hz.lock
    · rw [close_waiting]
      exact hz.waiting
    · exact hz.stored
  | kill =>
    obtain rfl : y = (w.kill, s) := hobeys
    exact h.kill hemptied

end Writer

namespace Pipeline

/-- One worker leaves nothing to a schedule. -/
theorem Answers.eq_step {σ : Type} {store : Store σ} {p q : Pipeline σ} {request : Request}
    (h : Answers store p request q) (hworkers : p.writer.workers = 1) :
    q = (p.step store request).state := by
  cases request with
  | drain =>
    rcases h with ⟨x, hdrains, rfl⟩
    rw [hdrains.eq_drain hworkers]
    rfl
  | shutdown =>
    rcases h with ⟨x, hdrains, rfl⟩
    rw [hdrains.eq_drain hworkers]
    rfl
  | _ => exact h

theorem run_append_state {σ : Type} (store : Store σ) (before after : List Request)
    (p : Pipeline σ) :
    (run store (before ++ after) p).state = (run store after (run store before p).state).state := by
  induction before generalizing p with
  | nil => rfl
  | cons request rest ih => exact ih _

theorem marks_append {σ : Type} (store : Store σ) (before after : List Request) (p : Pipeline σ) :
    marks store (before ++ after) p =
      marks store before p ++ marks store after (run store before p).state := by
  induction before generalizing p with
  | nil => rfl
  | cons request rest ih =>
    rw [List.cons_append, marks, marks, ih, List.append_assoc]
    rfl

theorem Reaches.eq_run {σ : Type} {store : Store σ} {p q : Pipeline σ} {requests : List Request}
    {trace : List Mark} (h : Reaches store p requests trace q) (hworkers : p.writer.workers = 1) :
    trace = marks store requests p ∧ q = (run store requests p).state := by
  induction h with
  | start => exact ⟨rfl, rfl⟩
  | next hreaches hanswers ih =>
    rcases ih with ⟨rfl, rfl⟩
    have hsingle := hreaches.induction (P := fun _ x => x.1.workers = 1)
      (fun hobeys h => hobeys.frame.2.trans h) hworkers
    rw [hanswers.eq_step hsingle, marks_append, run_append_state]
    exact ⟨congrArg (_ ++ ·) (List.append_nil _).symm, rfl⟩

/-- With one worker, the memory store behind faults holds round after round what was queued in it,
in order, less what has a fault, and nothing of a round that ended with the store locked. What was
waiting when the workers were cancelled is in no round. There is no schedule that comes to anything
else. -/
theorem stored_round_by_round (d : Dispatcher) {workers : Nat} (hworkers : workers ≤ 1)
    (capacity : Nat) (faults : Faults) (m : Memory) {started : Step (Pipeline Memory) Unit}
    (hstart : start? d workers capacity m = some started) (requests : List Request) :
    let store := Memory.store.behind faults
    let trace := marks store requests started.state
    let done := (run store requests started.state).state
    done.store.records =
        m.records ++ (Rounds.ofTrace m.locked trace).past.flatMap (Round.stored faults) ∧
      ∀ trace' done', Reaches store started.state requests trace' done' →
        trace' = trace ∧ done' = done := by
  intro store trace done
  have hsingle : started.state.writer.workers = 1 := by
    rw [start?_spec hstart]
    change max workers 1 = 1
    omega
  refine ⟨?_, fun trace' done' h => h.eq_run hsingle⟩
  have hreaches : Reaches store started.state requests trace done := reaches_run store requests (by omega)
  have hnew : Writer.InRounds faults m [] (started.state.writer, started.state.store) := by
    have hone : max workers 1 = 1 := by omega
    rw [start?_spec hstart, hone]
    exact Writer.inRounds_new faults m _
  have hempty : started.state.writer.Emptied := by
    rw [start?_spec hstart]
    exact Writer.emptied_new _ _
  exact (hreaches.induction (P := fun trace x => x.1.Emptied ∧ Writer.InRounds faults m trace x)
    (fun hobeys h => ⟨hobeys.emptied h.1, hobeys.inRounds h.2 h.1⟩) ⟨hempty, hnew⟩).2.stored

/-- One record has a fault, one finds the queue full, one finds the store locked, and the last is
waiting when the worker is cancelled. -/
theorem stored_round_by_round_lock_and_kill :
    let record (number : String) : Record := .make none (some number) .allowed .incoming 0 0
    let faults : Faults := [("2", .crash)]
    let start : Pipeline Memory :=
      { dispatcher := ⟨⟨false⟩, .standard⟩
        writer := { capacity := 1, workers := 1 }
        store := { supply := ⟨Uuid.ofNat, fun _ => default, 0⟩ } }
    let requests : List Request :=
      [.submit [record "1", record "2"], .submit [record "3"], .drain, .lock true,
        .submit [record "4"], .drain, .lock false, .submit [record "5"], .drain,
        .submit [record "6"], .kill, .shutdown]
    let store := Memory.store.behind faults
    let rounds := Rounds.ofTrace start.store.locked (marks store requests start)
    let done := (run store requests start).state
    done.store.records = start.store.records ++ rounds.past.flatMap (Round.stored faults) ∧
      done.store.records = [record "1", record "5"] ∧
      rounds.past.map Round.records =
        [[record "1", record "2"], [record "4"], [record "5"], []] := by
  intro record faults start requests store rounds done
  have hstart : start? start.dispatcher 1 1 start.store =
      some ⟨(), start, .of [.writerStarted 1 1] ++ (register start.dispatcher []).report⟩ := rfl
  obtain ⟨hrecords, -⟩ := stored_round_by_round start.dispatcher (Nat.le_refl 1) 1 faults start.store
    hstart requests
  have hrounds : rounds.past.map Round.records =
      [[record "1", record "2"], [record "4"], [record "5"], []] := by decide
  have hstored : done.store.records = [record "1", record "5"] := by decide
  exact ⟨by rw [hrecords], hstored, hrounds⟩

end Pipeline
end CallHistory
