import CallHistory.Proofs.Pool.Basic
import CallHistory.Proofs.Store.Laws

/-! # What a pool counts

However the workers take turns, a record that was queued is counted as persisted or as failed once,
and one that the store kept is counted as persisted. The counts lag behind the store by what the
workers have in hand, so the sums below take that in.
-/

namespace CallHistory

namespace Outcome

@[simp] theorem successes_append (x y : List Outcome) :
    successes (x ++ y) = successes x + successes y := by
  simp [successes]

theorem successes_add_failures (outcomes : List Outcome) :
    successes outcomes + failures outcomes = outcomes.length := by
  unfold successes failures
  have h := List.length_eq_countP_add_countP (l := outcomes) isFailed
  have hcongr : outcomes.countP (fun o => !o.isFailed) = outcomes.countP (fun o => ¬o.isFailed) := by
    congr 1
    funext o
    simp
  omega

end Outcome

variable {σ : Type}

namespace Pool

/-- How many records are queued or in the hands of workers. -/
def owed (p : Pool σ) : Nat :=
  p.queue.flatten.length + (p.workers.flatMap Worker.rest).length
    + (p.workers.flatMap Worker.outcomes).length

/-- How many records have been kept but not counted. -/
def uncounted (p : Pool σ) : Nat := Outcome.successes (p.workers.flatMap Worker.outcomes)

theorem IsQuiet.flatMap_workers {α : Type} {p : Pool σ} (h : p.IsQuiet) {f : Worker → List α}
    (hidle : f .idle = []) : p.workers.flatMap f = [] := by
  rw [List.flatMap_eq_nil_iff]
  intro w hw
  rw [h.2 w hw]
  exact hidle

theorem IsQuiet.owed {p : Pool σ} (h : p.IsQuiet) : p.owed = 0 := by
  unfold Pool.owed
  rw [h.1, h.flatMap_workers rfl, h.flatMap_workers rfl]
  rfl

theorem IsQuiet.uncounted {p : Pool σ} (h : p.IsQuiet) : p.uncounted = 0 := by
  unfold Pool.uncounted
  rw [h.flatMap_workers rfl]
  rfl

theorem start_owed (n : Nat) (queue : List (List Record)) (stats : WriterStats) (s : σ) :
    (start n queue stats s).owed = queue.flatten.length := by
  simp [owed, start]

theorem start_uncounted (n : Nat) (queue : List (List Record)) (stats : WriterStats) (s : σ) :
    (start n queue stats s).uncounted = 0 := by
  simp [uncounted, start, Outcome.successes]

/-- What has been counted and what is still owed are the same together after every turn. -/
theorem Turn.total {store : Store σ} {p q : Pool σ} (h : Turn store p q) :
    q.stats.persisted + q.stats.failed + .ofNat q.owed =
      p.stats.persisted + p.stats.failed + .ofNat p.owed := by
  cases h with
  | pass => rfl
  | take batch queue before after stats s =>
    have howed : owed ⟨queue, before ++ .busy batch [] :: after, stats, s⟩ =
        owed ⟨batch :: queue, before ++ .idle :: after, stats, s⟩ := by
      simp [owed]
      omega
    rw [howed]
  | write queue before r rest outcomes after stats s =>
    have howed : owed ⟨queue, before ++ .busy rest (outcomes ++ [(store.write r s).answer]) :: after,
        stats, (store.write r s).state⟩ =
        owed ⟨queue, before ++ .busy (r :: rest) outcomes :: after, stats, s⟩ := by
      simp [owed]
      omega
    rw [howed]
  | settle queue before outcomes after stats s =>
    have howed : owed ⟨queue, before ++ .busy [] outcomes :: after, stats, s⟩ =
        owed ⟨queue, before ++ .idle :: after, Writer.settle stats outcomes, s⟩
          + (Outcome.successes outcomes + Outcome.failures outcomes) := by
      simp [owed, Outcome.successes_add_failures]
      omega
    rw [howed]
    simp only [Writer.settle, UInt64.ofNat_add]
    grind

/-- What has been counted as persisted and what is not counted yet are what the store kept. -/
theorem Turn.persisted {store : Store σ} {kept : σ → List Record} (hkept : store.Appends kept)
    {p q : Pool σ} (h : Turn store p q) :
    q.stats.persisted + .ofNat q.uncounted + .ofNat (kept p.store).length =
      p.stats.persisted + .ofNat p.uncounted + .ofNat (kept q.store).length := by
  cases h with
  | pass => rfl
  | take => simp [uncounted, Outcome.successes]
  | write queue before r rest outcomes after stats s =>
    have hgrow : (kept (store.write r s).state).length =
        (kept s).length + Outcome.successes [(store.write r s).answer] := by
      rw [hkept r s]
      cases h : (store.write r s).answer.isFailed <;> simp [Outcome.successes, h]
    have huncounted : uncounted ⟨queue,
        before ++ .busy rest (outcomes ++ [(store.write r s).answer]) :: after, stats,
          (store.write r s).state⟩ =
        uncounted ⟨queue, before ++ .busy (r :: rest) outcomes :: after, stats, s⟩
          + Outcome.successes [(store.write r s).answer] := by
      simp only [uncounted, List.flatMap_append, List.flatMap_cons, Worker.outcomes_busy,
        Outcome.successes_append]
      omega
    rw [huncounted]
    simp only [hgrow, UInt64.ofNat_add]
    grind
  | settle queue before outcomes after stats s =>
    have huncounted : uncounted ⟨queue, before ++ .busy [] outcomes :: after, stats, s⟩ =
        uncounted ⟨queue, before ++ .idle :: after, Writer.settle stats outcomes, s⟩
          + Outcome.successes outcomes := by
      simp [uncounted, Outcome.successes]
      omega
    rw [huncounted]
    simp only [Writer.settle, UInt64.ofNat_add]
    grind

theorem Turn.submitted {store : Store σ} {p q : Pool σ} (h : Turn store p q) :
    q.stats.submitted = p.stats.submitted ∧ q.stats.dropped = p.stats.dropped := by
  cases h <;> exact ⟨rfl, rfl⟩

variable {store : Store σ} {n : Nat} {queue : List (List Record)} {stats : WriterStats} {s : σ}
  {done : Pool σ}

theorem Finishes.total (h : Finishes store n queue stats s done) :
    done.stats.persisted + done.stats.failed =
      stats.persisted + stats.failed + .ofNat queue.flatten.length := by
  have hsum := h.induction (P := fun q => q.stats.persisted + q.stats.failed + .ofNat q.owed =
    stats.persisted + stats.failed + .ofNat queue.flatten.length)
    (fun ht hp => ht.total.trans hp) (by rw [start_owed]; rfl)
  rw [h.isQuiet.owed] at hsum
  exact (UInt64.add_zero _).symm.trans hsum

theorem Finishes.persisted {kept : σ → List Record} (hkept : store.Appends kept)
    (h : Finishes store n queue stats s done) :
    done.stats.persisted + .ofNat (kept s).length =
      stats.persisted + .ofNat (kept done.store).length := by
  have hsum := h.induction (P := fun q => q.stats.persisted + .ofNat q.uncounted
    + .ofNat (kept s).length = stats.persisted + .ofNat (kept q.store).length)
    (fun ht hp => by have hturn := ht.persisted hkept; grind)
    (by rw [start_uncounted]; exact congrArg (· + _) (UInt64.add_zero _))
  rw [h.isQuiet.uncounted] at hsum
  exact (congrArg (· + _) (UInt64.add_zero _)).symm.trans hsum

theorem Finishes.submitted (h : Finishes store n queue stats s done) :
    done.stats.submitted = stats.submitted ∧ done.stats.dropped = stats.dropped :=
  h.induction (P := fun q => q.stats.submitted = stats.submitted ∧ q.stats.dropped = stats.dropped)
    (fun ht hp => ⟨ht.submitted.1.trans hp.1, ht.submitted.2.trans hp.2⟩) ⟨rfl, rfl⟩

end Pool
end CallHistory
