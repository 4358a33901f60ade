import CallHistory.Proofs.Pool.Basic

/-! # One worker

`Writer.work` is what a single worker does. A pool of one comes to it under every schedule, and in
a larger pool it is what happens when the first worker takes every turn, as the rota `Rota.single`
has it.
-/

namespace CallHistory

variable {σ : Type}

@[simp] theorem Writer.settle_nil (stats : WriterStats) : Writer.settle stats [] = stats := by
  simp [settle, Outcome.successes, Outcome.failures]

/-- The order of the turns, by the lengths of the batches that are queued. -/
abbrev Rota := List Nat → List Nat

namespace Rota

/-- The first worker takes every turn: one to take a batch, one for each of its records and one to
count its outcomes. -/
def single : Rota := fun lengths =>
  lengths.flatMap fun length => 0 :: List.replicate length 0 ++ [0]

theorem single_cons (length : Nat) (lengths : List Nat) :
    single (length :: lengths) = 0 :: List.replicate length 0 ++ 0 :: single lengths := by
  simp [single]

end Rota

namespace Pool

theorem run_append (store : Store σ) (first second : List Nat) (p : Pool σ) :
    p.run store (first ++ second) = (p.run store first).run store second := by
  simp [run]

theorem run_writeAll (store : Store σ) (batch : List Record) (queue : List (List Record))
    (outcomes : List Outcome) (others : List Worker) (stats : WriterStats) (s : σ) :
    run store (List.replicate batch.length 0) ⟨queue, .busy batch outcomes :: others, stats, s⟩ =
      ⟨queue, .busy [] (outcomes ++ (store.writeAll batch s).answer) :: others, stats,
        (store.writeAll batch s).state⟩ := by
  induction batch generalizing outcomes s with
  | nil => simp [run, Store.writeAll]
  | cons r rest ih =>
    have h := ih (outcomes ++ [(store.write r s).answer]) (store.write r s).state
    rw [List.append_assoc] at h
    exact h

theorem run_batch (store : Store σ) (batch : List Record) (queue : List (List Record))
    (others : List Worker) (stats : WriterStats) (s : σ) :
    run store (0 :: List.replicate batch.length 0) ⟨batch :: queue, .idle :: others, stats, s⟩ =
      ⟨queue, .busy [] (store.writeAll batch s).answer :: others, stats,
        (store.writeAll batch s).state⟩ :=
  run_writeAll store batch queue [] others stats s

/-- With the first worker alone at work, a pool comes to rest with what `Writer.work` leaves. -/
theorem run_single (store : Store σ) (queue : List (List Record)) (others : List Worker)
    (stats : WriterStats) (s : σ) :
    run store (Rota.single (queue.map List.length)) ⟨queue, .idle :: others, stats, s⟩ =
      ⟨[], .idle :: others, (Writer.work store queue (stats, s)).state.1,
        (Writer.work store queue (stats, s)).state.2⟩ := by
  induction queue generalizing stats s with
  | nil => rfl
  | cons batch queue ih =>
    let written := store.writeAll batch s
    rw [List.map_cons, Rota.single_cons, run_append, run_batch]
    exact ih (Writer.settle stats written.answer) written.state

/-- What is left when a worker finishes its batch and then all of the queue. -/
def alone (store : Store σ) (w : Worker) (queue : List (List Record)) (stats : WriterStats) (s : σ) :
    WriterStats × σ :=
  let written := store.writeAll w.rest s
  (Writer.work store queue (Writer.settle stats (w.outcomes ++ written.answer), written.state)).state

private theorem eq_of_around_eq_singleton {before after : List Worker} {v w : Worker}
    (h : before ++ v :: after = [w]) : before = [] ∧ after = [] ∧ v = w := by
  cases before with
  | nil =>
    obtain ⟨hv, hafter⟩ := List.cons.inj h
    exact ⟨rfl, hafter, hv⟩
  | cons b before =>
    have hlen := congrArg List.length h
    simp at hlen

/-- No turn of the only worker changes what is left in the end. -/
theorem Turn.alone {store : Store σ} {p q : Pool σ} (h : Turn store p q) {w : Worker}
    (hw : p.workers = [w]) :
    ∃ v, q.workers = [v] ∧
      alone store v q.queue q.stats q.store = alone store w p.queue p.stats p.store := by
  cases h with
  | pass => exact ⟨w, hw, rfl⟩
  | take batch queue before after stats s =>
    obtain ⟨rfl, rfl, rfl⟩ := eq_of_around_eq_singleton hw
    refine ⟨_, rfl, ?_⟩
    simp [Pool.alone, Store.writeAll, Writer.work]
  | write queue before r rest outcomes after stats s =>
    obtain ⟨rfl, rfl, rfl⟩ := eq_of_around_eq_singleton hw
    refine ⟨_, rfl, ?_⟩
    simp [Pool.alone, Store.writeAll]
  | settle queue before outcomes after stats s =>
    obtain ⟨rfl, rfl, rfl⟩ := eq_of_around_eq_singleton hw
    refine ⟨_, rfl, ?_⟩
    simp [Pool.alone, Store.writeAll]

theorem Finishes.eq_work {store : Store σ} {queue : List (List Record)} {stats : WriterStats}
    {s : σ} {done : Pool σ} (h : Finishes store 1 queue stats s done) :
    (done.stats, done.store) = (Writer.work store queue (stats, s)).state := by
  obtain ⟨w, hw, hleft⟩ := h.induction (P := fun q => ∃ v, q.workers = [v] ∧
      Pool.alone store v q.queue q.stats q.store = Pool.alone store .idle queue stats s)
    (fun ht ⟨v, hv, hp⟩ => by
      obtain ⟨v', hv', hq⟩ := ht.alone hv
      exact ⟨v', hv', hq.trans hp⟩) ⟨.idle, rfl, rfl⟩
  have hidle : w = .idle := h.isQuiet.2 w (by rw [hw]; exact List.mem_singleton_self w)
  rw [h.isQuiet.1, hidle] at hleft
  simpa [Pool.alone, Store.writeAll, Writer.work] using hleft

/-- What `Writer.work` does, a pool of at least one worker can do. -/
theorem finishes_work (store : Store σ) (n : Nat) (queue : List (List Record)) (stats : WriterStats)
    (s : σ) :
    Finishes store (n + 1) queue stats s
      ⟨[], List.replicate (n + 1) .idle, (Writer.work store queue (stats, s)).state.1,
        (Writer.work store queue (stats, s)).state.2⟩ :=
  ⟨Rota.single (queue.map List.length), run_single store queue (List.replicate n .idle) stats s, rfl,
    fun _ hw => List.eq_of_mem_replicate hw⟩

end Pool
end CallHistory
