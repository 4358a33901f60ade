import CallHistory.Proofs.Pool.Counts
import CallHistory.Proofs.Pool.Interleaving
import CallHistory.Proofs.Pool.Rest
import CallHistory.Proofs.Pool.Single

/-! # The pool agrees with one worker

Where the record alone decides whether a store keeps it, the order in which the workers take turns
does not show in the counts, and in the store only as an interleaving of the batches.
-/

namespace CallHistory

variable {σ : Type}

namespace Pool

/-- What is left of each batch: what the workers have in hand and what is queued. -/
def unwritten (p : Pool σ) : List (List Record) := p.workers.map Worker.rest ++ p.queue

theorem Turn.ok {store : Store σ} {ok : σ → Prop} {keeps : Record → Bool}
    (hdecides : store.Decides ok keeps) {p q : Pool σ} (h : Turn store p q) (hok : ok p.store) :
    ok q.store := by
  cases h with
  | pass => exact hok
  | take => exact hok
  | write queue before r rest outcomes after stats s => exact hdecides.write_ok r s hok
  | settle => exact hok

/-- What a turn adds to the store is the front of one of the parts that are left. -/
theorem Turn.interleaving {store : Store σ} {ok : σ → Prop} {keeps : Record → Bool}
    {kept : σ → List Record} (hdecides : store.Decides ok keeps) (hkept : store.Appends kept)
    {p q : Pool σ} (h : Turn store p q) (hok : ok p.store) {later : List Record}
    (hlater : Interleaving (q.unwritten.map (List.filter keeps)) later) :
    ∃ new, kept q.store = kept p.store ++ new ∧
      Interleaving (p.unwritten.map (List.filter keeps)) (new ++ later) := by
  cases h with
  | pass => exact ⟨[], by simp, hlater⟩
  | take batch queue before after stats s =>
    refine ⟨[], by simp, hlater.nil_cons.perm ?_⟩
    -- the batch has moved from the queue to a worker that had nothing in hand
    simp only [unwritten, Worker.rest_idle, Worker.rest_busy, List.map_append, List.map_cons,
      List.filter_nil, List.append_assoc, List.cons_append]
    exact List.perm_middle.symm.trans
      (List.Perm.append_left _ (List.perm_middle.symm.cons []))
  | write queue before r rest outcomes after stats s =>
    refine ⟨if keeps r then [r] else [], ?_, ?_⟩
    · rw [hkept r s, hdecides.isFailed_write r s hok]
      cases keeps r <;> rfl
    · simp only [unwritten, Worker.rest_busy, List.map_append, List.map_cons, List.append_assoc,
        List.cons_append] at hlater ⊢
      by_cases hr : keeps r = true
      · simp only [hr, if_true, List.filter_cons_of_pos, List.singleton_append]
        exact hlater.next
      · simp only [hr, if_false, List.nil_append, Bool.false_eq_true]
        rw [List.filter_cons_of_neg hr]
        exact hlater
  | settle queue before outcomes after stats s =>
    refine ⟨[], by simp, ?_⟩
    simp only [unwritten, Worker.rest_idle, Worker.rest_busy, List.map_append, List.map_cons] at hlater ⊢
    exact hlater

theorem run_interleaving {store : Store σ} {ok : σ → Prop} {keeps : Record → Bool}
    {kept : σ → List Record} (hdecides : store.Decides ok keeps) (hkept : store.Appends kept)
    (schedule : List Nat) {p : Pool σ} (hok : ok p.store) (hquiet : (p.run store schedule).IsQuiet) :
    ∃ new, kept (p.run store schedule).store = kept p.store ++ new ∧
      Interleaving (p.unwritten.map (List.filter keeps)) new := by
  induction schedule generalizing p with
  | nil =>
    refine ⟨[], (List.append_nil _).symm, .done fun part hpart => ?_⟩
    obtain ⟨part', hpart', rfl⟩ := List.mem_map.mp hpart
    rw [unwritten, show p.queue = [] from hquiet.1, List.append_nil] at hpart'
    obtain ⟨w, hw, rfl⟩ := List.mem_map.mp hpart'
    rw [hquiet.2 w hw]
    rfl
  | cons i rest ih =>
    have hturn := turn_spec store i p
    obtain ⟨later, hstore, hlater⟩ := ih (hturn.ok hdecides hok) hquiet
    obtain ⟨new, hnew, hall⟩ := hturn.interleaving hdecides hkept hok hlater
    refine ⟨new ++ later, ?_, hall⟩
    change kept ((p.turn store i).run store rest).store = _
    rw [hstore, hnew, List.append_assoc]

section Agreement

variable {store : Store σ} {ok : σ → Prop} {keeps : Record → Bool} {kept : σ → List Record}
  {queue : List (List Record)} {stats : WriterStats} {s : σ} {m n : Nat} {done done' : Pool σ}

theorem Finishes.interleaving (hdecides : store.Decides ok keeps) (hkept : store.Appends kept)
    (hok : ok s) (h : Finishes store n queue stats s done) :
    ∃ new, kept done.store = kept s ++ new ∧
      Interleaving (queue.map (List.filter keeps)) new := by
  rcases h with ⟨schedule, rfl, hquiet⟩
  obtain ⟨new, hstore, hall⟩ := run_interleaving hdecides hkept schedule (p := start n queue stats s)
    hok hquiet
  refine ⟨new, hstore, ?_⟩
  have hparts : (start n queue stats s).unwritten.map (List.filter keeps) =
      List.replicate n [] ++ queue.map (List.filter keeps) := by
    simp [unwritten, start]
  rw [hparts] at hall
  exact hall.of_replicate_nil

theorem Finishes.kept_perm (hdecides : store.Decides ok keeps) (hkept : store.Appends kept)
    (hok : ok s) (h : Finishes store m queue stats s done)
    (h' : Finishes store n queue stats s done') : (kept done.store).Perm (kept done'.store) := by
  obtain ⟨new, hstore, hall⟩ := h.interleaving hdecides hkept hok
  obtain ⟨new', hstore', hall'⟩ := h'.interleaving hdecides hkept hok
  rw [hstore, hstore']
  exact (hall.flatten_perm.trans hall'.flatten_perm.symm).append_left _

theorem Finishes.stats_eq (hdecides : store.Decides ok keeps) (hkept : store.Appends kept)
    (hok : ok s) (h : Finishes store m queue stats s done)
    (h' : Finishes store n queue stats s done') : done.stats = done'.stats := by
  have hpersisted : done.stats.persisted = done'.stats.persisted := by
    have hlength := (h.kept_perm hdecides hkept hok h').length_eq
    have hone := h.persisted hkept
    have hother := h'.persisted hkept
    rw [← hlength] at hother
    grind
  have hfailed : done.stats.failed = done'.stats.failed := by
    have hone := h.total
    have hother := h'.total
    rw [← hpersisted] at hother
    grind
  have hsubmitted := h.submitted.1.trans h'.submitted.1.symm
  have hdropped := h.submitted.2.trans h'.submitted.2.symm
  cases hstats : done.stats
  cases hstats' : done'.stats
  simp_all only

end Agreement

/-- Workers that share a queue never get stuck, and when they come to rest, by whatever turns, they
have counted what one worker counts and kept what one worker keeps. The records that the store keeps
of each batch are in the order of the batch. -/
theorem schedules_agree_with_one_worker {store : Store σ} {ok : σ → Prop} {keeps : Record → Bool}
    {kept : σ → List Record} (hdecides : store.Decides ok keeps) (hkept : store.Appends kept)
    {n : Nat} (hn : 0 < n) (queue : List (List Record)) (stats : WriterStats) {s : σ} (hok : ok s) :
    let one := (Writer.work store queue (stats, s)).state
    (∀ schedule, ∃ more, ((start n queue stats s).run store (schedule ++ more)).IsQuiet) ∧
      ∀ schedule done, (start n queue stats s).run store schedule = done → done.IsQuiet →
        done.stats = one.1 ∧ (kept done.store).Perm (kept one.2) ∧
          ∃ new, kept done.store = kept s ++ new ∧
            Interleaving (queue.map (List.filter keeps)) new ∧
            ∀ batch ∈ queue, (batch.filter keeps).Sublist new := by
  intro one
  constructor
  · intro schedule
    have hworkers := run_induction store (P := fun q => q.workers ≠ [])
      (fun ht hne => ht.workers_ne_nil hne) schedule (p := start n queue stats s)
      (by simp [start]; omega)
    obtain ⟨more, hquiet⟩ := exists_run_isQuiet store hworkers
    exact ⟨more, by rw [run_append]; exact hquiet⟩
  · intro schedule done hrun hquiet
    have h : Finishes store n queue stats s done := ⟨schedule, hrun, hquiet⟩
    have hone := finishes_work store 0 queue stats s
    refine ⟨h.stats_eq hdecides hkept hok hone, h.kept_perm hdecides hkept hok hone, ?_⟩
    obtain ⟨new, hstore, hall⟩ := h.interleaving hdecides hkept hok
    refine ⟨new, hstore, hall, fun batch hbatch => ?_⟩
    exact hall.sublist _ (List.mem_map_of_mem hbatch)

/-- Two workers: the second overtakes the first, whose second record has a fault. -/
theorem schedules_agree_overtaking :
    let record (number : String) : Record := .make none (some number) .allowed .incoming 0 0
    let store := Memory.store.behind [("2", .crash)]
    let memory : Memory := { supply := ⟨Uuid.ofNat, fun _ => default, 0⟩ }
    let queue := [[record "1", record "2"], [record "3"]]
    let done := (start 2 queue {} memory).run store [0, 1, 1, 0, 0, 0, 1]
    let one := (Writer.work store queue ({}, memory)).state
    done.IsQuiet ∧ done.store.records = [record "3", record "1"] ∧
      one.2.records = [record "1", record "3"] ∧ done.stats = one.1 ∧
      done.store.records.Perm one.2.records := by
  intro record store memory queue done one
  have hquiet : done.IsQuiet := by decide
  obtain ⟨-, hagree⟩ := schedules_agree_with_one_worker (Memory.behind_decides _ false)
    (Memory.behind_appends _) (by decide : 0 < 2) queue {} (s := memory) rfl
  obtain ⟨hstats, hperm, -⟩ := hagree _ done rfl hquiet
  exact ⟨hquiet, rfl, rfl, hstats, hperm⟩

end Pool
end CallHistory
