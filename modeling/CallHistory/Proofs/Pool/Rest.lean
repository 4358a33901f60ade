import CallHistory.Proofs.Pool.Basic

/-! # Coming to rest

A turn that is not passed brings the pool closer to rest, and as long as it is not at rest some
worker can take such a turn. So turns that have been taken can always be followed by others that
bring the pool to rest, whichever they were.
-/

namespace CallHistory

namespace Worker

def isBusy : Worker → Bool
  | idle => false
  | busy _ _ => true

@[simp] theorem isBusy_idle : idle.isBusy = false := rfl

@[simp] theorem isBusy_busy (rest : List Record) (outcomes : List Outcome) :
    (busy rest outcomes).isBusy = true := rfl

end Worker

namespace Pool

variable {σ : Type}

/-- How many turns a pool needs to come to rest: one to take a batch, one for each of its records
and one to count its outcomes. -/
def turns (p : Pool σ) : Nat :=
  2 * p.queue.length + p.queue.flatten.length
    + (p.workers.flatMap Worker.rest).length + p.workers.countP Worker.isBusy

/-- A turn changes nothing or is one less to take. -/
theorem Turn.turns {store : Store σ} {p q : Pool σ} (h : Turn store p q) :
    q = p ∨ q.turns + 1 = p.turns := by
  cases h with
  | pass => exact .inl rfl
  | take =>
    right
    simp [Pool.turns, List.countP_cons]
    omega
  | write =>
    right
    simp [Pool.turns, List.countP_cons]
    omega
  | settle =>
    right
    simp [Pool.turns, List.countP_cons]
    omega

theorem Turn.workers_ne_nil {store : Store σ} {p q : Pool σ} (h : Turn store p q)
    (hne : p.workers ≠ []) : q.workers ≠ [] := by
  cases h with
  | pass => exact hne
  | take => simp
  | write => simp
  | settle => simp

theorem turn_ne_of_busy (store : Store σ) {p : Pool σ} {i : Nat} {rest : List Record}
    {outcomes : List Outcome} (hw : p.workers[i]? = some (.busy rest outcomes)) :
    p.turn store i ≠ p := by
  intro heq
  obtain ⟨hlt, -⟩ := List.getElem?_eq_some_iff.mp hw
  have hworker : (p.turn store i).workers[i]? = some (.busy rest outcomes) := by rw [heq, hw]
  unfold turn at hworker
  rw [hw] at hworker
  cases rest with
  | nil => simp [hlt] at hworker
  | cons r rest => simp [hlt] at hworker

theorem turn_ne_of_idle (store : Store σ) {p : Pool σ} {i : Nat} (hw : p.workers[i]? = some .idle)
    (hqueue : p.queue ≠ []) : p.turn store i ≠ p := by
  intro heq
  obtain ⟨batch, queue, hcons⟩ := List.exists_cons_of_ne_nil hqueue
  have hlen := congrArg (fun q => q.queue.length) heq
  unfold turn at hlen
  simp [hw, hcons] at hlen

theorem exists_turn (store : Store σ) {p : Pool σ} (hworkers : p.workers ≠ [])
    (hbusy : ¬p.IsQuiet) : ∃ i, p.turn store i ≠ p := by
  by_cases hidle : ∀ w ∈ p.workers, w = .idle
  · obtain ⟨w, others, hcons⟩ := List.exists_cons_of_ne_nil hworkers
    have hfirst : p.workers[0]? = some .idle := by
      rw [hcons, ← hidle w (by rw [hcons]; exact List.mem_cons_self)]
      rfl
    exact ⟨0, turn_ne_of_idle store hfirst fun hqueue => hbusy ⟨hqueue, hidle⟩⟩
  · obtain ⟨w, hw⟩ := Classical.not_forall.mp hidle
    obtain ⟨hmem, hne⟩ := Classical.not_imp.mp hw
    obtain ⟨i, hi⟩ := List.mem_iff_getElem?.mp hmem
    cases w with
    | idle => exact absurd rfl hne
    | busy rest outcomes => exact ⟨i, turn_ne_of_busy store hi⟩

/-- From any state a pool of at least one worker can be brought to rest. -/
theorem exists_run_isQuiet (store : Store σ) {p : Pool σ} (hworkers : p.workers ≠ []) :
    ∃ schedule, (p.run store schedule).IsQuiet := by
  generalize hn : p.turns = n
  induction n generalizing p with
  | zero =>
    refine ⟨[], ?_⟩
    apply Classical.byContradiction
    intro hbusy
    obtain ⟨i, hi⟩ := exists_turn store hworkers hbusy
    cases (turn_spec store i p).turns with
    | inl heq => exact hi heq
    | inr hlt => omega
  | succ n ih =>
    by_cases hquiet : p.IsQuiet
    · exact ⟨[], hquiet⟩
    · obtain ⟨i, hi⟩ := exists_turn store hworkers hquiet
      have hturn := turn_spec store i p
      have hless : (p.turn store i).turns = n := by
        cases hturn.turns with
        | inl heq => exact absurd heq hi
        | inr hlt => omega
      obtain ⟨schedule, hrest⟩ := ih (hturn.workers_ne_nil hworkers) hless
      exact ⟨i :: schedule, hrest⟩

end Pool
end CallHistory
