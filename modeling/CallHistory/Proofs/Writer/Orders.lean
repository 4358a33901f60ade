import CallHistory.Proofs.Pool.Single

/-! # Orders for a writer

All that a writer and its store are told to do comes down to a few orders. `Writer.obey` carries them
out as the program does; `Writer.Obeys` is wider in that the workers take turns in any way wherever
they run. What became of an order is its mark.
-/

namespace CallHistory

variable {σ : Type}

inductive Order where
  | send (batch : List Record)
  | lock (locked : Bool)
  | drain
  | shutdown
  | kill
  deriving DecidableEq

def WriterPhase.after (order : Order) (phase : WriterPhase) : WriterPhase :=
  match order with
  | .send _ | .lock _ | .drain => phase
  | .shutdown =>
    match phase with
    | .running | .stopped => .stopped
    | .killed _ => .killed true
  | .kill => if phase = .running then .killed false else phase

namespace Writer

def obey (store : Store σ) : Order → Writer × σ → Writer × σ
  | .send batch, (w, s) => ((w.submit batch).state, s)
  | .lock locked, (w, s) => (w, store.lock locked s)
  | .drain, x => (drain store x).state
  | .shutdown, x => (shutdown store x).state
  | .kill, (w, s) => (w.kill, s)

/-- The batches that are queued and not lost. -/
def waiting (w : Writer) : List (List Record) :=
  match w.phase with
  | .killed _ => []
  | .running | .stopped => w.queue

theorem waiting_running {w : Writer} (h : w.phase = .running) : w.waiting = w.queue := by
  simp [waiting, h]

/-- A writer that has stopped has nothing queued. -/
def Emptied (w : Writer) : Prop := w.phase = .stopped → w.queue = []

theorem emptied_new (capacity workers : Nat) : Emptied { capacity, workers } := by
  intro _
  rfl

theorem Emptied.waiting {w : Writer} (h : w.Emptied) (hidle : w.phase ≠ .running) :
    w.waiting = [] := by
  unfold Writer.waiting
  split
  · rfl
  · rename_i hrunning
    exact absurd hrunning hidle
  · rename_i hstopped
    exact h hstopped

def close (w : Writer) : Writer := { w with phase := w.phase.after .shutdown }

theorem close_waiting (w : Writer) : w.close.waiting = w.waiting := by
  unfold waiting close
  cases hphase : w.phase <;> rfl

theorem drain_running (store : Store σ) {x : Writer × σ} (h : x.1.phase = .running) :
    (drain store x).state =
      ({ x.1 with begun := true, queue := [], stats := (work store x.1.queue (x.1.stats, x.2)).state.1 },
        (work store x.1.queue (x.1.stats, x.2)).state.2) := by
  rcases x with ⟨w, s⟩
  simp only at h
  simp [drain, h]

theorem drain_idle (store : Store σ) {x : Writer × σ} (h : x.1.phase ≠ .running) :
    (drain store x).state = x := by
  rcases x with ⟨w, s⟩
  simp only [ne_eq] at h
  simp [drain, h]

/-- The workers of a running writer empty the queue, in whatever way they take turns. -/
def Drains (store : Store σ) (x y : Writer × σ) : Prop :=
  if x.1.phase = .running then
    ∃ done, Pool.Finishes store x.1.workers x.1.queue x.1.stats x.2 done ∧
      y = ({ x.1 with begun := true, queue := [], stats := done.stats }, done.store)
  else y = x

theorem drains_drain (store : Store σ) {x : Writer × σ} (hworkers : 0 < x.1.workers) :
    Drains store x (drain store x).state := by
  unfold Drains
  split
  · rename_i hrunning
    obtain ⟨n, hn⟩ := Nat.exists_eq_succ_of_ne_zero (Nat.ne_of_gt hworkers)
    rw [hn, drain_running store hrunning]
    exact ⟨_, Pool.finishes_work store n x.1.queue x.1.stats x.2, rfl⟩
  · rename_i hidle
    exact drain_idle store hidle

/-- A single worker has only one way. -/
theorem Drains.eq_drain {store : Store σ} {x y : Writer × σ} (h : Drains store x y)
    (hworkers : x.1.workers = 1) : y = (drain store x).state := by
  unfold Drains at h
  split at h
  · rename_i hrunning
    rcases h with ⟨done, hfinishes, rfl⟩
    rw [hworkers] at hfinishes
    rw [drain_running store hrunning, ← hfinishes.eq_work]
  · rename_i hidle
    rw [drain_idle store hidle]
    exact h

end Writer

inductive Mark where
  | sent (batch : List Record) (answer : Except SubmitError Unit)
  | locked (locked : Bool)
  /-- The workers ran, if the writer still had any. -/
  | flushed
  /-- The workers were cancelled while these batches were waiting. -/
  | killed (waiting : List (List Record))

namespace Mark

def accepted : Mark → List Record
  | sent batch (.ok _) => batch
  | _ => []

def dropped : Mark → List Record
  | sent batch (.error (.queueFull _)) => batch
  | _ => []

/-- The records that were waiting when the workers were cancelled. -/
def lost : Mark → List Record
  | killed waiting => waiting.flatten
  | _ => []

end Mark

namespace Writer

def mark (w : Writer) : Order → Mark
  | .send batch => .sent batch (w.submit batch).answer
  | .lock locked => .locked locked
  | .drain | .shutdown => .flushed
  | .kill => .killed w.waiting

/-- An order is obeyed; where it lets the workers run, they take turns in any way. -/
def Obeys (store : Store σ) (order : Order) (x y : Writer × σ) : Prop :=
  match order with
  | .drain => Drains store x y
  | .shutdown => ∃ z, Drains store x z ∧ y = (z.1.close, z.2)
  | .send _ | .lock _ | .kill => y = obey store order x

theorem submit_cases (w : Writer) (batch : List Record) :
    (batch = [] ∧ w.submit batch = ⟨.ok (), w, {}⟩) ∨
      (w.phase ≠ .running ∧ w.submit batch = ⟨.error .stopped, w, {}⟩) ∨
      (w.phase = .running ∧ w.queue.length < w.capacity ∧ (w.submit batch).answer = .ok () ∧
        (w.submit batch).state =
          { w with
            queue := w.queue ++ [batch]
            stats := { w.stats with submitted := w.stats.submitted + .ofNat batch.length } }) ∨
      (w.phase = .running ∧ w.capacity ≤ w.queue.length ∧
        (w.submit batch).answer = .error (.queueFull batch.length) ∧
        (w.submit batch).state =
          { w with
            stats := { w.stats with dropped := w.stats.dropped + .ofNat batch.length } }) := by
  cases batch with
  | nil => exact .inl ⟨rfl, rfl⟩
  | cons r rest =>
    by_cases hphase : w.phase = .running
    · by_cases hroom : w.queue.length < w.capacity
      · exact .inr (.inr (.inl ⟨hphase, hroom, by simp [submit, hphase, hroom]⟩))
      · refine .inr (.inr (.inr ⟨hphase, Nat.le_of_not_lt hroom, ?_⟩))
        simp [submit, hphase, hroom]
    · exact .inr (.inl ⟨hphase, by simp [submit, hphase]⟩)

theorem kill_stats (w : Writer) : w.kill.stats = w.stats := by
  unfold kill
  split <;> rfl

theorem submit_frame (w : Writer) (batch : List Record) :
    (w.submit batch).state.phase = w.phase ∧ (w.submit batch).state.workers = w.workers ∧
      (w.submit batch).state.stats.persisted = w.stats.persisted := by
  rcases submit_cases w batch with ⟨-, hsubmit⟩ | ⟨-, hsubmit⟩ | ⟨-, -, -, hstate⟩ |
    ⟨-, -, -, hstate⟩
  · rw [hsubmit]
    exact ⟨rfl, rfl, rfl⟩
  · rw [hsubmit]
    exact ⟨rfl, rfl, rfl⟩
  · rw [hstate]
    exact ⟨rfl, rfl, rfl⟩
  · rw [hstate]
    exact ⟨rfl, rfl, rfl⟩

theorem submit_stopped {w : Writer} (batch : List Record) (h : w.phase ≠ .running) :
    (w.submit batch).state = w := by
  rcases submit_cases w batch with ⟨-, hsubmit⟩ | ⟨-, hsubmit⟩ | ⟨hrunning, -⟩ | ⟨hrunning, -⟩
  · rw [hsubmit]
  · rw [hsubmit]
  · exact absurd hrunning h
  · exact absurd hrunning h

theorem Drains.frame {store : Store σ} {x y : Writer × σ} (h : Drains store x y) :
    y.1.phase = x.1.phase ∧ y.1.workers = x.1.workers := by
  unfold Drains at h
  split at h
  · rcases h with ⟨done, -, rfl⟩
    exact ⟨rfl, rfl⟩
  · rw [h]
    exact ⟨rfl, rfl⟩

/-- An order changes the phase by itself, and never the size of the pool. -/
theorem Obeys.frame {store : Store σ} {order : Order} {x y : Writer × σ}
    (h : Obeys store order x y) :
    y.1.phase = x.1.phase.after order ∧ y.1.workers = x.1.workers := by
  rcases x with ⟨w, s⟩
  cases order with
  | send batch =>
    obtain rfl : y = ((w.submit batch).state, s) := h
    exact ⟨(submit_frame w batch).1, (submit_frame w batch).2.1⟩
  | lock locked =>
    obtain rfl : y = (w, store.lock locked s) := h
    exact ⟨rfl, rfl⟩
  | drain => exact Drains.frame h
  | shutdown =>
    rcases h with ⟨z, hdrains, rfl⟩
    obtain ⟨hphase, hworkers⟩ := hdrains.frame
    exact ⟨congrArg (WriterPhase.after .shutdown) hphase, hworkers⟩
  | kill =>
    obtain rfl : y = (w.kill, s) := h
    unfold kill
    split
    · rename_i hrunning
      exact ⟨(if_pos hrunning).symm, rfl⟩
    · rename_i hidle
      exact ⟨(if_neg hidle).symm, rfl⟩

theorem Drains.queue {store : Store σ} {x y : Writer × σ} (h : Drains store x y)
    (hrunning : y.1.phase = .running) : y.1.queue = [] := by
  rw [h.frame.1] at hrunning
  obtain ⟨done, -, rfl⟩ := (if_pos hrunning).mp h
  rfl

theorem Drains.emptied {store : Store σ} {x y : Writer × σ} (h : Drains store x y)
    (hx : x.1.Emptied) : y.1.Emptied := by
  unfold Drains at h
  split at h
  · rcases h with ⟨done, -, rfl⟩
    intro _
    rfl
  · rw [h]
    exact hx

theorem Obeys.emptied {store : Store σ} {order : Order} {x y : Writer × σ}
    (h : Obeys store order x y) (hx : x.1.Emptied) : y.1.Emptied := by
  rcases x with ⟨w, s⟩
  cases order with
  | send batch =>
    obtain rfl : y = ((w.submit batch).state, s) := h
    intro hstopped
    change (w.submit batch).state.phase = .stopped at hstopped
    rw [(submit_frame w batch).1] at hstopped
    change (w.submit batch).state.queue = []
    rw [submit_stopped batch (by rw [hstopped]; decide)]
    exact hx hstopped
  | lock locked =>
    obtain rfl : y = (w, store.lock locked s) := h
    exact hx
  | drain => exact Drains.emptied h hx
  | shutdown =>
    rcases h with ⟨z, hdrains, rfl⟩
    intro hstopped
    change z.1.phase.after .shutdown = .stopped at hstopped
    cases hphase : z.1.phase with
    | running => exact hdrains.queue hphase
    | stopped => exact hdrains.emptied hx hphase
    | killed joined =>
      rw [hphase] at hstopped
      cases hstopped
  | kill =>
    obtain rfl : y = (w.kill, s) := h
    intro hstopped
    change w.kill.phase = .stopped at hstopped
    unfold kill at hstopped
    split at hstopped
    · cases hstopped
    · rename_i hidle
      change w.kill.queue = []
      unfold kill
      rw [if_neg hidle]
      exact hx hstopped

end Writer
end CallHistory
