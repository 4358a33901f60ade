import CallHistory.Proofs.Pool.Reporting
import CallHistory.Proofs.Report.Masking
import CallHistory.Proofs.Store.Laws

/-! # Discreet stores

A store may fail for one record and keep another. If all that shows of this is the fate of a record,
nothing else of the record gets into the report of the store, nor into what can be seen of the store
later. The memory store behind a table of faults is such a store, where the fate of a record is its
fault. The workers of a pool add nothing to what the store lets out, in whatever order they take
turns.
-/

namespace CallHistory

variable {σ φ ψ : Type}

/-- Whether writing a record fails, what the store reports of it and what is seen of the store after
it are up to the fate of the record and what was seen of the store before. -/
structure Store.Discreet (store : Store σ) (fate : Record → φ) (seen : σ → ψ) : Prop where
  write : ∀ {r r' s s'}, fate r = fate r' → seen s = seen s' →
    (store.write r s).answer.isFailed = (store.write r' s').answer.isFailed ∧
      (store.write r s).report.Alike (store.write r' s').report ∧
      seen (store.write r s).state = seen (store.write r' s').state
  lock : ∀ locked {s s'}, seen s = seen s' →
    seen (store.lock locked s) = seen (store.lock locked s')

namespace Memory

/-- What is seen of a memory store: whether it is locked, and how much it holds. -/
def sight (m : Memory) : Bool × Nat := (m.locked, m.entries.length)

theorem behind_discreet (faults : Faults) :
    (store.behind faults).Discreet faults.find? sight where
  write {r r' m m'} hfate hsight := by
    obtain ⟨hlocked, hlength⟩ := Prod.mk.inj hsight
    unfold Store.write
    cases hfault : faults.find? r with
    | some fault =>
      rw [Store.behind_add_of_fault store hfault m,
        Store.behind_add_of_fault store (hfate.symm.trans hfault) m']
      exact ⟨rfl, .refl _, hsight⟩
    | none =>
      rw [Store.behind_add_of_none store hfault m,
        Store.behind_add_of_none store (hfate.symm.trans hfault) m']
      cases hlock : m.locked with
      | true =>
        have hadd (r : Record) {m : Memory} (h : m.locked = true) :
            store.add r m = ⟨.refused .locked, m, {}⟩ := if_pos h
        rw [hadd r hlock, hadd r' (hlocked.symm.trans hlock)]
        exact ⟨rfl, .refl _, hsight⟩
      | false =>
        have hadd (r : Record) {m : Memory} (h : m.locked = false) : store.add r m =
            ⟨.stored m.supply.entry,
              { m with entries := m.entries ++ [⟨m.supply.entry, r⟩], supply := m.supply.next },
              .of [.entryStored m.supply.entry (m.entries.length + 1)]⟩ :=
          if_neg (by simp [h])
        rw [hadd r hlock, hadd r' (hlocked.symm.trans hlock), hlength]
        refine ⟨rfl, ⟨rfl, rfl⟩, ?_⟩
        simp [sight, hlocked, hlength]
  lock locked _ _ hsight := congrArg (Prod.mk locked) (Prod.mk.inj hsight).2

end Memory

/-! ### What outcomes come to -/

namespace Outcome

variable {outcomes outcomes' : List Outcome}

theorem failures_congr (h : outcomes.map isFailed = outcomes'.map isFailed) :
    failures outcomes = failures outcomes' := by
  have hcount (l : List Outcome) : failures l = (l.map isFailed).countP id := by
    rw [List.countP_map]
    rfl
  rw [hcount, hcount, h]

theorem successes_congr (h : outcomes.map isFailed = outcomes'.map isFailed) :
    successes outcomes = successes outcomes' := by
  have hcount (l : List Outcome) : successes l = (l.map isFailed).countP (!·) := by
    rw [List.countP_map]
    rfl
  rw [hcount, hcount, h]

end Outcome

theorem Writer.settle_congr (stats : WriterStats) {outcomes outcomes' : List Outcome}
    (h : outcomes.map Outcome.isFailed = outcomes'.map Outcome.isFailed) :
    settle stats outcomes = settle stats outcomes' := by
  unfold settle
  rw [Outcome.failures_congr h, Outcome.successes_congr h]

theorem Writer.settled_congr {outcomes outcomes' : List Outcome}
    (h : outcomes.map Outcome.isFailed = outcomes'.map Outcome.isFailed) :
    settled outcomes = settled outcomes' := by
  unfold settled Outcome.warnings
  rw [Outcome.failures_congr h, Outcome.successes_congr h]

/-! ### Pools -/

/-- What is seen of a worker: the fates of what it has still to write, and which of the records that
it has written failed. -/
def Worker.sight (fate : Record → φ) : Worker → Option (List φ × List Bool)
  | idle => none
  | busy rest outcomes => some (rest.map fate, outcomes.map Outcome.isFailed)

namespace Pool

/-- Pools with the same counts in which the same is seen of the queues, the workers and the stores. -/
structure Alike (fate : Record → φ) (seen : σ → ψ) (p p' : Pool σ) : Prop where
  queue : p.queue.map (List.map fate) = p'.queue.map (List.map fate)
  workers : p.workers.map (Worker.sight fate) = p'.workers.map (Worker.sight fate)
  stats : p.stats = p'.stats
  store : seen p.store = seen p'.store

namespace Alike

variable {store : Store σ} {fate : Record → φ} {seen : σ → ψ} {p p' : Pool σ}

theorem worker (h : Alike fate seen p p') {i : Nat} {w : Worker} (hw : p.workers[i]? = some w) :
    ∃ w', p'.workers[i]? = some w' ∧ w'.sight fate = w.sight fate := by
  refine Option.map_eq_some_iff.mp ?_
  rw [← List.getElem?_map, ← h.workers, List.getElem?_map, hw]
  rfl

theorem no_worker (h : Alike fate seen p p') {i : Nat} (hw : p.workers[i]? = none) :
    p'.workers[i]? = none := by
  have hsight : p'.workers[i]?.map (Worker.sight fate) = none := by
    rw [← List.getElem?_map, ← h.workers, List.getElem?_map, hw]
    rfl
  exact Option.map_eq_none_iff.mp hsight

theorem set_workers (h : Alike fate seen p p') (i : Nat) {w w' : Worker}
    (hw : w.sight fate = w'.sight fate) :
    (p.workers.set i w).map (Worker.sight fate) = (p'.workers.set i w').map (Worker.sight fate) := by
  rw [List.map_set, List.map_set, h.workers, hw]

theorem turn (hstore : store.Discreet fate seen) (h : Alike fate seen p p') (i : Nat) :
    Alike fate seen (p.turn store i) (p'.turn store i) ∧
      (p.turnReport store i).Alike (p'.turnReport store i) := by
  unfold Pool.turn turnReport
  cases hw : p.workers[i]? with
  | none =>
    rw [h.no_worker hw]
    exact ⟨h, .refl _⟩
  | some w =>
    obtain ⟨w', hw', hsight⟩ := h.worker hw
    rw [hw']
    cases w with
    | idle =>
      cases w' with
      | busy rest outcomes => cases hsight
      | idle =>
        have hqueue := h.queue
        cases hbatches : p.queue with
        | nil =>
          rw [hbatches] at hqueue
          rw [List.map_eq_nil_iff.mp hqueue.symm]
          exact ⟨h, .refl _⟩
        | cons batch queue =>
          rw [hbatches] at hqueue
          obtain ⟨batch', queue', hbatches', hbatch, hrest⟩ := List.map_eq_cons_iff.mp hqueue.symm
          rw [hbatches']
          refine ⟨⟨hrest.symm, h.set_workers i ?_, h.stats, h.store⟩, .refl _⟩
          simp [Worker.sight, hbatch]
    | busy rest outcomes =>
      cases w' with
      | idle => cases hsight
      | busy rest' outcomes' =>
        obtain ⟨hrest, houtcomes⟩ := Prod.mk.inj (Option.some.inj hsight)
        cases rest with
        | nil =>
          obtain rfl := List.map_eq_nil_iff.mp hrest
          have hstats : Writer.settle p.stats outcomes = Writer.settle p'.stats outcomes' := by
            rw [h.stats, Writer.settle_congr p'.stats houtcomes]
          have hreport : (Writer.settled outcomes).Alike (Writer.settled outcomes') := by
            rw [Writer.settled_congr houtcomes]
          exact ⟨⟨h.queue, h.set_workers i rfl, hstats, h.store⟩, hreport⟩
        | cons r rest =>
          obtain ⟨r', rest', rfl, hr, htail⟩ := List.map_eq_cons_iff.mp hrest
          obtain ⟨hfailed, hreport, hseen⟩ := hstore.write hr.symm h.store
          refine ⟨⟨h.queue, h.set_workers i ?_, h.stats, hseen⟩, hreport⟩
          simp [Worker.sight, htail, houtcomes, hfailed]

/-- Under one schedule pools that look alike go on looking alike, and report alike. -/
theorem run (hstore : store.Discreet fate seen) (h : Alike fate seen p p') (schedule : List Nat) :
    Alike fate seen (p.run store schedule) (p'.run store schedule) ∧
      (p.report store schedule).Alike (p'.report store schedule) := by
  induction schedule generalizing p p' with
  | nil => exact ⟨h, .refl _⟩
  | cons i rest ih =>
    obtain ⟨hturn, hreport⟩ := h.turn hstore i
    obtain ⟨hrest, hreports⟩ := ih hturn
    exact ⟨hrest, hreport.append hreports⟩

end Alike
end Pool
end CallHistory
