import CallHistory.Proofs.Pipeline.Offers
import CallHistory.Proofs.Pipeline.Rotas
import CallHistory.Store.Archive

/-! # Counters

The counters that are published are kept apart from the counts of the writer, and what the log
suppresses is in the counters alone. A step adds to the counts of the writer what it adds to the
counters; what is left over is one for each record that the log suppresses.
-/

namespace CallHistory

/-! ### Stores -/

namespace FileLog

theorem store_countsNothing {δ : Type} (d : Disk δ) : (store d).CountsNothing := by
  intro r f
  simp only [store, add]
  split <;> rfl

end FileLog

namespace Database

theorem store_countsNothing : store.CountsNothing := by
  intro r d
  simp only [store, add]
  split
  · rfl
  · split <;> rfl

end Database

namespace Archive

theorem store_countsNothing {δ : Type} (disk : Disk δ) : (store disk).CountsNothing := by
  intro r a
  cases a with
  | memory m =>
    have hmemory := Memory.behind_countsNothing []
    rw [Memory.behind_nil] at hmemory
    exact hmemory r m
  | file f => exact FileLog.store_countsNothing disk r f
  | database d => exact Database.store_countsNothing r d

end Archive

/-! ### Writers -/

variable {σ : Type} {store : Store σ}

/-- The counts of a writer as counters. A writer knows nothing of what is suppressed. -/
def WriterStats.counters (s : WriterStats) : Counters :=
  { written := s.persisted, failed := s.failed, dropped := s.dropped }

theorem Writer.settle_counters (stats : WriterStats) (outcomes : List Outcome) :
    (settle stats outcomes).counters = stats.counters + (settled outcomes).counted := by
  simp only [settled, Report.append_counted, Report.count_counted, Report.of_counted,
    Counters.add_none]
  ext1 <;> simp [settle, WriterStats.counters]

namespace Pool

theorem turn_counters (h : store.CountsNothing) (i : Nat) (p : Pool σ) :
    (p.turn store i).stats.counters = p.stats.counters + (p.turnReport store i).counted := by
  unfold turn turnReport
  cases p.workers[i]? with
  | none => exact (Counters.add_none _).symm
  | some w =>
    cases w with
    | idle => cases p.queue <;> exact (Counters.add_none _).symm
    | busy rest outcomes =>
      cases rest with
      | nil => exact Writer.settle_counters p.stats outcomes
      | cons r rest =>
        simp only [h.write]
        exact (Counters.add_none _).symm

theorem run_counters (h : store.CountsNothing) (schedule : List Nat) (p : Pool σ) :
    (p.run store schedule).stats.counters = p.stats.counters + (p.report store schedule).counted := by
  induction schedule generalizing p with
  | nil => exact (Counters.add_none _).symm
  | cons i rest ih =>
    rw [report, Report.append_counted, ← Counters.add_assoc, ← turn_counters h]
    exact ih (p.turn store i)

theorem report_counted (h : store.CountsNothing) (schedule : List Nat) (p : Pool σ) :
    ∃ m n, (p.report store schedule).counted = { written := m, failed := n } := by
  have hturn (i : Nat) (p : Pool σ) :
      ∃ m n, (p.turnReport store i).counted = { written := m, failed := n } := by
    unfold turnReport
    split
    · exact ⟨0, 0, h.write _ _⟩
    · exact ⟨_, _, Counters.add_none _⟩
    · exact ⟨0, 0, rfl⟩
    · exact ⟨0, 0, rfl⟩
  induction schedule generalizing p with
  | nil => exact ⟨0, 0, rfl⟩
  | cons i rest ih =>
    obtain ⟨m, n, hfirst⟩ := hturn i p
    obtain ⟨m', n', hrest⟩ := ih (p.turn store i)
    exact ⟨m + m', n + n', by rw [report, Report.append_counted, hfirst, hrest]; rfl⟩

end Pool

namespace Writer

theorem submit_counters (w : Writer) (batch : List Record) :
    (w.submit batch).state.stats.counters =
      w.stats.counters + (w.submit batch).report.counted := by
  unfold submit
  split
  · exact (Counters.add_none _).symm
  · split
    · exact (Counters.add_none _).symm
    · split
      · exact (Counters.add_none _).symm
      · simp only [Report.append_counted, Report.count_counted, Report.of_counted,
          Counters.add_none]
        ext1 <;> simp [WriterStats.counters]

theorem drainBy_counters (h : store.CountsNothing) (rota : Rota) (x : Writer × σ) :
    (drainBy store rota x).state.1.stats.counters =
      x.1.stats.counters + (drainBy store rota x).report.counted := by
  rcases x with ⟨w, s⟩
  by_cases hrunning : w.phase = .running
  · simp only [drainBy, hrunning, if_true, Report.append_counted, Report.of_counted,
      Counters.none_add]
    exact Pool.run_counters h _ (Pool.start w.workers w.queue w.stats s)
  · simp only [drainBy, hrunning, if_false]
    exact (Counters.add_none _).symm

theorem shutdownBy_counters (h : store.CountsNothing) (rota : Rota) (x : Writer × σ) :
    (shutdownBy store rota x).state.1.stats.counters =
      x.1.stats.counters + (shutdownBy store rota x).report.counted := by
  simp only [shutdownBy, Report.append_counted, Report.of_counted, Counters.add_none]
  exact drainBy_counters h rota x

theorem drainBy_counted (h : store.CountsNothing) (rota : Rota) (x : Writer × σ) :
    ∃ m n, (drainBy store rota x).report.counted = { written := m, failed := n } := by
  rcases x with ⟨w, s⟩
  by_cases hrunning : w.phase = .running
  · simp only [drainBy, hrunning, if_true, Report.append_counted, Report.of_counted,
      Counters.none_add]
    exact Pool.report_counted h _ _
  · simp only [drainBy, hrunning, if_false]
    exact ⟨0, 0, rfl⟩

end Writer

/-! ### Pipelines -/

def suppressions (offers : List (Record × Attempt Dispatch)) : Counters :=
  { suppressed := .ofNat (offers.countP (·.2 = .done .suppressed)) }

@[simp] theorem suppressions_nil : suppressions [] = {} := rfl

theorem suppressions_append (first second : List (Record × Attempt Dispatch)) :
    suppressions (first ++ second) = suppressions first + suppressions second := by
  ext1 <;> simp [suppressions]

namespace Pipeline

def offered (p : Pipeline σ) (request : Request) : List (Record × Attempt Dispatch) :=
  ((p.offer? request).map fun r => (r, (p.logged r).answer)).toList

def offersBy (store : Store σ) :
    List Rota → List Request → Pipeline σ → List (Record × Attempt Dispatch)
  | _, [], _ => []
  | rotas, request :: rest, p =>
    p.offered request ++
      offersBy store rotas.tail rest (p.stepBy store (rotas.headD .single) request).state

theorem offersBy_nil (store : Store σ) (requests : List Request) {p : Pipeline σ}
    (hworkers : 0 < p.writer.workers) : offersBy store [] requests p = offers store requests p := by
  induction requests generalizing p with
  | nil => rfl
  | cons request rest ih =>
    have hworkers' : 0 < (p.step store request).state.writer.workers := by
      rw [(answers_step store p request hworkers).frame.2]
      exact hworkers
    simp only [offersBy, offers, List.headD_nil, List.tail_nil, stepBy_single store hworkers,
      ih hworkers', offered]

/-- The log suppresses a record and counts it, or hands it over and leaves the counting to the
writer. -/
theorem logged_counters (p : Pipeline σ) (r : Record) :
    (p.logged r).state.stats.counters + suppressions [(r, (p.logged r).answer)] =
      p.writer.stats.counters + (p.logged r).report.counted := by
  unfold logged Dispatcher.log
  split
  · have hanswer := submitted_ne_suppressed (p.writer.submit [r]).answer
    have hnone : suppressions [(r, (Attempt.ofExcept (p.writer.submit [r]).answer).map
        fun _ => .submitted)] = {} := by simp [suppressions, hanswer]
    simp only [Writer.submitter, hnone, Report.append_counted, Report.of_counted,
      Counters.none_add, Counters.add_none]
    exact p.writer.submit_counters [r]
  · rfl

theorem stepBy_of_direct?_eq_none (store : Store σ) (rota : Rota) (p : Pipeline σ)
    {request : Request} (h : direct? request = none) :
    p.stepBy store rota request = p.step store request := by
  cases request with
  | drain => cases h
  | shutdown => cases h
  | _ => rfl

/-- Every request adds to the counts of the writer what it adds to the counters, but for what the
log suppresses. -/
theorem stepBy_counters (h : store.CountsNothing) (rota : Rota) (p : Pipeline σ)
    (request : Request) :
    (p.stepBy store rota request).state.writer.stats.counters + suppressions (p.offered request) =
      p.writer.stats.counters + (p.stepBy store rota request).report.counted := by
  cases hoffer : p.offer? request with
  | some r =>
    obtain ⟨hwriter, ⟨before, after, hreport⟩, -⟩ := step_of_offer? store hoffer
    rw [stepBy_of_direct?_eq_none store rota p (direct?_of_offer? hoffer), hwriter, hreport]
    simp only [offered, hoffer, Option.map_some, Option.toList_some, Report.append_counted,
      Report.of_counted, Counters.none_add, Counters.add_none]
    exact p.logged_counters r
  | none =>
    have hnothing : p.offered request = [] := by simp [offered, hoffer]
    rw [hnothing, suppressions_nil, Counters.add_none]
    cases hdirect : direct? request with
    | none =>
      obtain ⟨hwriter, hcounted⟩ := step_of_offer?_eq_none store hoffer hdirect
      rw [stepBy_of_direct?_eq_none store rota p hdirect, hwriter, hcounted, Counters.add_none]
    | some order =>
      cases request with
      | submit batch => exact p.writer.submit_counters batch
      | lock locked => exact (Counters.add_none _).symm
      | drain => exact Writer.drainBy_counters h rota (p.writer, p.store)
      | shutdown => exact Writer.shutdownBy_counters h rota (p.writer, p.store)
      | kill =>
        change p.writer.kill.stats.counters = p.writer.stats.counters + {}
        rw [Writer.kill_stats, Counters.add_none]
      | _ => cases hdirect

theorem runBy_counters (h : store.CountsNothing) (rotas : List Rota) (requests : List Request)
    (p : Pipeline σ) :
    (runBy store rotas requests p).state.writer.stats.counters +
        suppressions (offersBy store rotas requests p) =
      p.writer.stats.counters + (runBy store rotas requests p).report.counted := by
  induction requests generalizing rotas p with
  | nil => rfl
  | cons request rest ih =>
    have hstep := stepBy_counters h (rotas.headD .single) p request
    have hrest := ih rotas.tail (p.stepBy store (rotas.headD .single) request).state
    simp only [runBy, offersBy, suppressions_append, Report.append_counted]
    rw [Counters.add_comm (suppressions _), ← Counters.add_assoc, hrest, Counters.add_assoc,
      Counters.add_comm (Report.counted _), ← Counters.add_assoc, hstep, Counters.add_assoc]

theorem logged_counted (p : Pipeline σ) (r : Record) :
    ∃ n k, (p.logged r).report.counted = { dropped := n, suppressed := k } := by
  unfold logged Dispatcher.log
  split
  · obtain ⟨n, hn⟩ := p.writer.submit_counted [r]
    exact ⟨n, 0, (Counters.none_add _).trans hn⟩
  · exact ⟨0, 1, rfl⟩

theorem stepBy_counted (h : store.CountsNothing) (rota : Rota) (p : Pipeline σ)
    (request : Request) :
    ((request = .drain ∨ request = .shutdown) ∧ ∃ m n,
        (p.stepBy store rota request).report.counted = { written := m, failed := n }) ∨
      ((∃ batch, request = .submit batch) ∧ ∃ n,
        (p.stepBy store rota request).report.counted = { dropped := n }) ∨
      ((∃ r, p.offer? request = some r) ∧ ∃ n k,
        (p.stepBy store rota request).report.counted = { dropped := n, suppressed := k }) ∨
      (p.stepBy store rota request).report.counted = {} := by
  cases hoffer : p.offer? request with
  | some r =>
    obtain ⟨-, ⟨before, after, hreport⟩, -⟩ := step_of_offer? store hoffer
    obtain ⟨n, k, hcounted⟩ := p.logged_counted r
    refine .inr (.inr (.inl ⟨⟨r, rfl⟩, n, k, ?_⟩))
    rw [stepBy_of_direct?_eq_none store rota p (direct?_of_offer? hoffer), hreport]
    simpa using hcounted
  | none =>
    cases hdirect : direct? request with
    | none =>
      rw [stepBy_of_direct?_eq_none store rota p hdirect]
      exact .inr (.inr (.inr (step_of_offer?_eq_none store hoffer hdirect).2))
    | some order =>
      cases request with
      | submit batch => exact .inr (.inl ⟨⟨batch, rfl⟩, p.writer.submit_counted batch⟩)
      | lock locked => exact .inr (.inr (.inr rfl))
      | drain => exact .inl ⟨.inl rfl, Writer.drainBy_counted h rota (p.writer, p.store)⟩
      | shutdown =>
        obtain ⟨m, n, hcounted⟩ := Writer.drainBy_counted h rota (p.writer, p.store)
        exact .inl ⟨.inr rfl, m, n, (Counters.add_none _).trans hcounted⟩
      | kill => exact .inr (.inr (.inr rfl))
      | _ => cases hdirect

theorem start?_counters {d : Dispatcher} {workers capacity : Nat} {s : σ}
    {started : Step (Pipeline σ) Unit} (h : start? d workers capacity s = some started) :
    started.state.writer.stats.counters = {} ∧ started.report.counted = {} := by
  obtain ⟨writer, hwriter, rfl⟩ := Option.map_eq_some_iff.mp h
  simp only [Writer.start?, Option.ite_none_right_eq_some, Option.some.injEq] at hwriter
  rw [← hwriter.2]
  exact ⟨rfl, rfl⟩

/-- The four counters that are published are at every moment what the writer counts as persisted, as
failed and as dropped, and how often the log answered that it suppressed a record. Written and failed
are touched only where the workers run, dropped only where a batch is handed over, and suppressed only
where a record is brought to the log. -/
theorem counters_agree_with_stats :
    (∀ faults, (Memory.store.behind faults).CountsNothing) ∧
    (∀ {δ : Type} (disk : Disk δ), (Archive.store disk).CountsNothing) ∧
    ∀ {σ : Type} (store : Store σ), store.CountsNothing →
      (∀ {d : Dispatcher} {workers capacity : Nat} {s : σ} {started : Step (Pipeline σ) Unit},
        start? d workers capacity s = some started → ∀ (rotas : List Rota) (requests : List Request),
          let ran := runBy store rotas requests started.state
          let stats := ran.state.writer.stats
          let offers := offersBy store rotas requests started.state
          (started.report ++ ran.report).counted.named =
            [("call_log_records_written_total", stats.persisted),
              ("call_log_records_failed_total", stats.failed),
              ("call_log_records_dropped_total", stats.dropped),
              ("call_log_records_suppressed_total",
                .ofNat (offers.countP (·.2 = .done .suppressed)))]) ∧
      ∀ (rota : Rota) (p : Pipeline σ) (request : Request),
        let counted := (p.stepBy store rota request).report.counted
        (request ≠ .drain → request ≠ .shutdown → counted.written = 0 ∧ counted.failed = 0) ∧
          (p.offer? request = none → (∀ batch, request ≠ .submit batch) → counted.dropped = 0) ∧
          (p.offer? request = none → counted.suppressed = 0) := by
  refine ⟨Memory.behind_countsNothing, Archive.store_countsNothing, fun store h => ⟨?_, ?_⟩⟩
  · intro d workers capacity s started hstart rotas requests ran stats offers
    obtain ⟨hzero, hnothing⟩ := start?_counters hstart
    have hran := runBy_counters h rotas requests started.state
    rw [hzero, Counters.none_add] at hran
    rw [Report.append_counted, hnothing, Counters.none_add, ← hran]
    simp [Counters.named, WriterStats.counters, suppressions, stats, ran, offers]
  · intro rota p request
    dsimp only
    rcases stepBy_counted h rota p request with
      ⟨hworks, m, n, hcounted⟩ | ⟨⟨batch, rfl⟩, n, hcounted⟩ | ⟨⟨r, hr⟩, n, k, hcounted⟩ | hcounted
    · rw [hcounted]
      exact ⟨fun hdrain hshutdown => (hworks.elim hdrain hshutdown).elim, fun _ _ => rfl, fun _ => rfl⟩
    · rw [hcounted]
      exact ⟨fun _ _ => ⟨rfl, rfl⟩, fun _ hsubmit => (hsubmit batch rfl).elim, fun _ => rfl⟩
    · rw [hcounted, hr]
      exact ⟨fun _ _ => ⟨rfl, rfl⟩, nofun, nofun⟩
    · rw [hcounted]
      exact ⟨fun _ _ => ⟨rfl, rfl⟩, fun _ _ => rfl, fun _ => rfl⟩

/-- Two workers and a queue for one batch: a record that is written next to one with a fault, one that
finds the queue full, two of emergency calls, and two that come too late. -/
theorem counters_agree_with_stats_full_and_killed :
    let record (number : String) : Record := .make none (some number) .allowed .incoming 0 0
    let store := Memory.store.behind [("2", .crash)]
    let p : Pipeline Memory :=
      { dispatcher := ⟨⟨false⟩, .ofList ["911"]⟩
        writer := { capacity := 1, workers := 2 }
        store := { supply := ⟨Uuid.ofNat, fun _ => default, 0⟩ } }
    let requests : List Request :=
      [.submit [record "1", record "2"], .log (record "5"), .log (record "9-11"), .drain,
        .add (.start default true (some (.tel "911")) ⟨0, by decide, by decide⟩),
        .set 0 .aborted ⟨1, by decide, by decide⟩, .log (record "7"), .kill, .log (record "8"),
        .shutdown]
    let rotas : List Rota := [.single, .single, .single, fun _ => [1, 0, 1, 0, 1, 0, 1]]
    let started := Report.of [.writerStarted 2 1] ++ (register p.dispatcher []).report
    (started ++ (runBy store rotas requests p).report).counted.named =
      [("call_log_records_written_total", 1), ("call_log_records_failed_total", 1),
        ("call_log_records_dropped_total", 1), ("call_log_records_suppressed_total", 2)] := by
  intro record store p requests rotas started
  have hstart : start? p.dispatcher 2 1 p.store = some ⟨(), p, started⟩ := rfl
  have hnothing : store.CountsNothing := Memory.behind_countsNothing [("2", .crash)]
  rw [(counters_agree_with_stats.2.2 store hnothing).1 hstart rotas requests]
  decide

end Pipeline
end CallHistory
