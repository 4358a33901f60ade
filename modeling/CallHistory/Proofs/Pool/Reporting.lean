import CallHistory.Proofs.Pool.Single

/-! # What a pool reports

A worker reports each record that it writes and, once a batch is done, the outcomes of the batch. The
report of a pool is made of the reports of its turns. Where the first worker takes every turn, it is
the report of `Writer.work`.
-/

namespace CallHistory

variable {σ : Type}

namespace Pool

def turnReport (store : Store σ) (i : Nat) (p : Pool σ) : Report :=
  match p.workers[i]? with
  | some (.busy (r :: _) _) => (store.write r p.store).report
  | some (.busy [] outcomes) => Writer.settled outcomes
  | none | some .idle => {}

def report (store : Store σ) : List Nat → Pool σ → Report
  | [], _ => {}
  | i :: rest, p => p.turnReport store i ++ report store rest (p.turn store i)

theorem report_append (store : Store σ) (first second : List Nat) (p : Pool σ) :
    p.report store (first ++ second) =
      p.report store first ++ (p.run store first).report store second := by
  induction first generalizing p with
  | nil => exact (Report.empty_append _).symm
  | cons i rest ih =>
    simp only [List.cons_append, report, ih, Report.append_assoc]
    rfl

theorem report_writeAll (store : Store σ) (batch : List Record) (queue : List (List Record))
    (outcomes : List Outcome) (others : List Worker) (stats : WriterStats) (s : σ) :
    report store (List.replicate batch.length 0) ⟨queue, .busy batch outcomes :: others, stats, s⟩ =
      (store.writeAll batch s).report := by
  induction batch generalizing outcomes s with
  | nil => rfl
  | cons r rest ih =>
    exact congrArg ((store.write r s).report ++ ·)
      (ih (outcomes ++ [(store.write r s).answer]) (store.write r s).state)

/-- With the first worker alone at work, a pool reports what `Writer.work` reports. -/
theorem report_single (store : Store σ) (queue : List (List Record)) (others : List Worker)
    (stats : WriterStats) (s : σ) :
    report store (Rota.single (queue.map List.length)) ⟨queue, .idle :: others, stats, s⟩ =
      (Writer.work store queue (stats, s)).report := by
  induction queue generalizing stats s with
  | nil => rfl
  | cons batch queue ih =>
    let written := store.writeAll batch s
    have hbatch : report store (0 :: List.replicate batch.length 0)
        ⟨batch :: queue, .idle :: others, stats, s⟩ = written.report :=
      (Report.empty_append _).trans (report_writeAll store batch queue [] others stats s)
    have hrest : report store (Rota.single (queue.map List.length))
        (turn store 0 ⟨queue, .busy [] written.answer :: others, stats, written.state⟩) =
        (Writer.work store queue (Writer.settle stats written.answer, written.state)).report :=
      ih (Writer.settle stats written.answer) written.state
    rw [List.map_cons, Rota.single_cons, report_append, hbatch, run_batch, report, hrest,
      ← Report.append_assoc]
    rfl

end Pool
end CallHistory
