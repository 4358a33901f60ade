import CallHistory.Proofs.Pipeline.Trace
import CallHistory.Proofs.Writer.Accounts

/-! # Conservation of records

Whatever is asked of a pipeline, and in whatever way its workers take turns, the counts of its writer
account for every record: none is counted twice and none is forgotten.
-/

namespace CallHistory.Pipeline

/-- A shutdown that no kill came before stops the writer for good. -/
theorem stopped_of_shutdown {before after : List Request} (hkill : Request.kill ∉ before) :
    (before ++ .shutdown :: after).foldl phaseAfter .running = .stopped := by
  have hbefore (phase : WriterPhase) (hphase : phase = .running ∨ phase = .stopped) :
      before.foldl phaseAfter phase = .running ∨ before.foldl phaseAfter phase = .stopped := by
    induction before generalizing phase with
    | nil => exact hphase
    | cons request rest ih =>
      obtain ⟨hne, hrest⟩ := not_or.mp (mt List.mem_cons.mpr hkill)
      refine ih hrest _ ?_
      cases request with
      | kill => exact absurd rfl hne
      | shutdown => exact .inr (by cases hphase <;> subst phase <;> rfl)
      | _ => exact hphase
  have hafter : after.foldl phaseAfter .stopped = .stopped := by
    induction after with
    | nil => rfl
    | cons request rest ih =>
      cases request with
      | _ => exact ih
  rw [List.foldl_append, List.foldl_cons]
  cases hbefore .running (.inl rfl) with
  | inl hrunning =>
    rw [hrunning]
    exact hafter
  | inr hstopped =>
    rw [hstopped]
    exact hafter

/-- From a start with any number of workers and any capacity, over any store: at every moment the
counts balance, what was not queued is not counted as submitted, and after a shutdown that no kill
came before every record that was queued is persisted or failed. Over the memory store behind any
faults, what is counted as persisted is what is stored. -/
theorem records_accounted_for (d : Dispatcher) (workers capacity : Nat) (requests : List Request)
    (trace : List Mark) :
    (∀ {σ : Type} (store : Store σ) (s : σ) (started : Step (Pipeline σ) Unit) (p : Pipeline σ),
      start? d workers capacity s = some started →
      Reaches store started.state requests trace p →
        p.writer.Accounts trace ∧
          (∀ batch, batch = [] ∨ (p.writer.submit batch).answer = .error .stopped →
            (p.writer.submit batch).state = p.writer) ∧
          ∀ before after, requests = before ++ .shutdown :: after → .kill ∉ before →
            p.writer.stats.submitted = p.writer.stats.persisted + p.writer.stats.failed) ∧
      ∀ (faults : Faults) (m : Memory) (started : Step (Pipeline Memory) Unit) (p : Pipeline Memory),
        start? d workers capacity m = some started →
        Reaches (Memory.store.behind faults) started.state requests trace p →
        m.records = [] → p.writer.stats.persisted = .ofNat p.store.records.length := by
  constructor
  · intro σ store s started p hstart hreaches
    rw [start?_spec hstart] at hreaches
    obtain ⟨haccounts, hemptied⟩ := hreaches.induction
      (P := fun trace x => x.1.Accounts trace ∧ x.1.Emptied)
      (fun hobeys h => ⟨hobeys.accounts h.1 h.2, hobeys.emptied h.2⟩)
      ⟨Writer.accounts_new _ _, Writer.emptied_new _ _⟩
    refine ⟨haccounts, fun batch h => Writer.submit_uncounted h, ?_⟩
    intro before after hrequests hkill
    refine haccounts.settled hemptied ?_
    rw [hreaches.phase, hrequests]
    exact stopped_of_shutdown hkill
  · intro faults m started p hstart hreaches hnew
    rw [start?_spec hstart] at hreaches
    have hpersisted := hreaches.induction
      (P := fun _ x => x.1.stats.persisted + .ofNat m.records.length = 0 + .ofNat x.2.records.length)
      (fun {trace order x y} hobeys h => by
        have hgrow := hobeys.persisted (Memory.behind_appends faults) (fun _ _ => rfl)
        grind) rfl
    rw [hnew] at hpersisted
    exact (UInt64.add_zero _).symm.trans (hpersisted.trans (UInt64.zero_add _))

/-- Two workers and room for one batch: one record is stored, one has a fault, one finds the queue
full, and the last is lost if the workers are cancelled and stored if the writer is shut down. -/
theorem records_accounted_for_kill_and_shutdown :
    let record (number : String) : Record := .make none (some number) .allowed .incoming 0 0
    let store := Memory.store.behind [("2", .crash)]
    let start : Pipeline Memory :=
      { dispatcher := ⟨⟨false⟩, .standard⟩
        writer := { capacity := 1, workers := 2 }
        store := { supply := ⟨Uuid.ofNat, fun _ => default, 0⟩ } }
    let before : List Request :=
      [.submit [record "1", record "2"], .submit [record "3"], .drain, .submit [record "4"]]
    let killed := (run store (before ++ [.kill]) start).state
    let stopped := (run store (before ++ [.shutdown, .kill]) start).state
    killed.writer.Accounts (marks store (before ++ [.kill]) start) ∧
      killed.writer.stats = ⟨3, 1, 1, 1⟩ ∧
      killed.writer.stats.persisted = .ofNat killed.store.records.length ∧
      (killed.writer.submit [record "5"]).state = killed.writer ∧
      stopped.writer.stats = ⟨3, 2, 1, 1⟩ ∧
      stopped.writer.stats.submitted =
        stopped.writer.stats.persisted + stopped.writer.stats.failed := by
  intro record store start before killed stopped
  have hkilled : Reaches store start (before ++ [.kill]) _ killed := reaches_run _ _ (by decide)
  have hstopped : Reaches store start (before ++ [.shutdown, .kill]) _ stopped :=
    reaches_run _ _ (by decide)
  obtain ⟨hany, hmemory⟩ := records_accounted_for start.dispatcher 2 1 (before ++ [.kill])
    (marks store (before ++ [.kill]) start)
  obtain ⟨haccounts, huncounted, -⟩ := hany store start.store _ killed rfl hkilled
  obtain ⟨hany', -⟩ := records_accounted_for start.dispatcher 2 1 (before ++ [.shutdown, .kill])
    (marks store (before ++ [.shutdown, .kill]) start)
  obtain ⟨-, -, hsettled⟩ := hany' store start.store _ stopped rfl hstopped
  exact ⟨haccounts, by decide, hmemory _ start.store _ killed rfl hkilled rfl,
    huncounted _ (.inr rfl), by decide, hsettled before [.kill] rfl (by decide)⟩

end CallHistory.Pipeline
