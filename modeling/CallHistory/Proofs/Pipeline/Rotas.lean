import CallHistory.Proofs.Pipeline.Session
import CallHistory.Proofs.Pool.Reporting

/-! # Runs by rota

Where a pipeline lets its workers run, the first of them does all the work. `runBy` is the run in
which they take turns by a rota of their own for each request, and with its report. The run of a
pipeline is the one without rotas, and every run in which the workers take turns in any way is one
by some rotas.
-/

namespace CallHistory

variable {σ : Type}

namespace Writer

/-- Lets the workers take turns by a rota, which is to bring them to rest: what a worker has in hand
after it is lost. -/
def drainBy (store : Store σ) (rota : Rota) : Writer × σ → Step (Writer × σ) Unit
  | (w, s) =>
    if w.phase = .running then
      let p := Pool.start w.workers w.queue w.stats s
      let schedule := rota (w.queue.map List.length)
      let done := p.run store schedule
      ⟨(), ({ w with begun := true, queue := done.queue, stats := done.stats }, done.store),
        .of w.beginning ++ p.report store schedule⟩
    else ⟨(), (w, s), {}⟩

def shutdownBy (store : Store σ) (rota : Rota) (x : Writer × σ) : Step (Writer × σ) Unit :=
  let drained := drainBy store rota x
  let (w, s) := drained.state
  ⟨(), (w.close, s), drained.report ++ .of (w.joining ++ [.writerStopped w.stats])⟩

theorem drainBy_single (store : Store σ) {x : Writer × σ} (hworkers : 0 < x.1.workers) :
    drainBy store .single x = drain store x := by
  rcases x with ⟨w, s⟩
  by_cases hrunning : w.phase = .running
  · obtain ⟨n, hn⟩ := Nat.exists_eq_succ_of_ne_zero (Nat.ne_of_gt hworkers)
    have hstart : Pool.start w.workers w.queue w.stats s =
        ⟨w.queue, .idle :: List.replicate n .idle, w.stats, s⟩ := by
      rw [hn]
      rfl
    simp only [drainBy, drain, hrunning, if_true, hstart, Pool.run_single, Pool.report_single]
  · simp only [drainBy, drain, hrunning, if_false]

theorem shutdownBy_single (store : Store σ) {x : Writer × σ} (hworkers : 0 < x.1.workers) :
    shutdownBy store .single x = shutdown store x := by
  unfold shutdownBy
  rw [drainBy_single store hworkers]
  rfl

theorem Drains.exists_rota {store : Store σ} {x y : Writer × σ} (h : Drains store x y) :
    ∃ rota, (drainBy store rota x).state = y := by
  rcases x with ⟨w, s⟩
  unfold Drains at h
  split at h
  · rename_i hrunning
    obtain ⟨done, ⟨schedule, rfl, hquiet, -⟩, rfl⟩ := h
    refine ⟨fun _ => schedule, ?_⟩
    simp only [drainBy, if_pos hrunning, hquiet]
  · rename_i hidle
    exact ⟨.single, by simp only [drainBy, if_neg hidle, h]⟩

end Writer

namespace Pipeline

def stepBy (store : Store σ) (rota : Rota) (p : Pipeline σ) : Request → Step (Pipeline σ) Answer
  | .drain =>
    let drained := Writer.drainBy store rota (p.writer, p.store)
    ⟨.done, { p with writer := drained.state.1, store := drained.state.2 }, drained.report⟩
  | .shutdown =>
    let stopped := Writer.shutdownBy store rota (p.writer, p.store)
    ⟨.done, { p with writer := stopped.state.1, store := stopped.state.2 }, stopped.report⟩
  | request => p.step store request

/-- Answers requests in order, with a rota for each of them. Where no rota is left, the first worker
takes every turn. -/
def runBy (store : Store σ) :
    List Rota → List Request → Pipeline σ → Step (Pipeline σ) (List Answer)
  | _, [], p => ⟨[], p, {}⟩
  | rotas, request :: rest, p =>
    let first := p.stepBy store (rotas.headD .single) request
    let others := runBy store rotas.tail rest first.state
    ⟨first.answer :: others.answer, others.state, first.report ++ others.report⟩

theorem stepBy_single (store : Store σ) {p : Pipeline σ} (hworkers : 0 < p.writer.workers)
    (request : Request) : p.stepBy store .single request = p.step store request := by
  cases request with
  | drain =>
    unfold stepBy step
    rw [Writer.drainBy_single store hworkers]
  | shutdown =>
    unfold stepBy step
    rw [Writer.shutdownBy_single store hworkers]
  | _ => rfl

theorem runBy_nil (store : Store σ) (requests : List Request) {p : Pipeline σ}
    (hworkers : 0 < p.writer.workers) : runBy store [] requests p = run store requests p := by
  induction requests generalizing p with
  | nil => rfl
  | cons request rest ih =>
    have hworkers' : 0 < (p.step store request).state.writer.workers := by
      rw [(answers_step store p request hworkers).frame.2]
      exact hworkers
    simp only [runBy, run, List.headD_nil, List.tail_nil, stepBy_single store hworkers, ih hworkers']

theorem Answers.exists_rota {store : Store σ} {p q : Pipeline σ} {request : Request}
    (h : Answers store p request q) : ∃ rota, (p.stepBy store rota request).state = q := by
  cases request with
  | drain =>
    rcases h with ⟨x, hdrains, rfl⟩
    obtain ⟨rota, rfl⟩ := hdrains.exists_rota
    exact ⟨rota, rfl⟩
  | shutdown =>
    rcases h with ⟨x, hdrains, rfl⟩
    obtain ⟨rota, rfl⟩ := hdrains.exists_rota
    exact ⟨rota, rfl⟩
  | _ => exact ⟨.single, h.symm⟩

theorem Session.exists_rotas {store : Store σ} {p q : Pipeline σ} {exchanges : List (Exchange σ)}
    (h : Session store p exchanges q) :
    ∃ rotas, (runBy store rotas (exchanges.map Exchange.request) p).state = q := by
  induction h with
  | done p => exact ⟨[], rfl⟩
  | next hanswers hrest ih =>
    obtain ⟨rota, rfl⟩ := hanswers.exists_rota
    obtain ⟨rotas, hrotas⟩ := ih
    exact ⟨rota :: rotas, hrotas⟩

/-- In whatever way the workers take turns, it is by some rotas. -/
theorem Reaches.exists_rotas {store : Store σ} {p q : Pipeline σ} {requests : List Request}
    {trace : List Mark} (h : Reaches store p requests trace q) :
    ∃ rotas, (runBy store rotas requests p).state = q := by
  obtain ⟨exchanges, rfl, hsession⟩ := h.exists_session
  exact hsession.exists_rotas

end Pipeline
end CallHistory
