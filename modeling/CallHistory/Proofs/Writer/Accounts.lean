import CallHistory.Proofs.Pool.Counts
import CallHistory.Proofs.Writer.Orders

/-! # The accounts of a writer

Every record that was queued is persisted, failed, waiting or lost when the workers were cancelled,
and the counts say so at every moment, modulo the size of a counter. What was not queued is counted
as dropped if there was no room for it, and not at all if the writer had stopped.
-/

namespace CallHistory

variable {σ : Type}

namespace Writer

/-- The counts of a writer agree with what the trace says and with what is waiting. -/
structure Accounts (trace : List Mark) (w : Writer) : Prop where
  balance : w.stats.submitted = w.stats.persisted + w.stats.failed
    + .ofNat w.waiting.flatten.length + .ofNat (trace.flatMap Mark.lost).length
  accepted : w.stats.submitted = .ofNat (trace.flatMap Mark.accepted).length
  dropped : w.stats.dropped = .ofNat (trace.flatMap Mark.dropped).length
  lost : (∀ joined, w.phase ≠ .killed joined) → trace.flatMap Mark.lost = []

theorem accounts_new (capacity workers : Nat) : Accounts [] { capacity, workers } where
  balance := rfl
  accepted := rfl
  dropped := rfl
  lost _ := rfl

theorem Accounts.silent {trace : List Mark} {w : Writer} (h : Accounts trace w) (m : Mark)
    (haccepted : m.accepted = []) (hdropped : m.dropped = []) (hlost : m.lost = []) :
    Accounts (trace ++ [m]) w where
  balance := by simpa [hlost] using h.balance
  accepted := by simpa [haccepted] using h.accepted
  dropped := by simpa [hdropped] using h.dropped
  lost hphase := by simpa [hlost] using h.lost hphase

theorem Accounts.submit {trace : List Mark} {w : Writer} (h : Accounts trace w)
    (batch : List Record) :
    Accounts (trace ++ [.sent batch (w.submit batch).answer]) (w.submit batch).state := by
  rcases submit_cases w batch with ⟨rfl, hsubmit⟩ | ⟨-, hsubmit⟩ |
    ⟨hrunning, -, hanswer, hstate⟩ | ⟨hrunning, -, hanswer, hstate⟩
  · rw [hsubmit]
    exact h.silent _ rfl rfl rfl
  · rw [hsubmit]
    exact h.silent _ rfl rfl rfl
  · rw [hanswer, hstate]
    have hbalance := h.balance
    have haccepted := h.accepted
    rw [waiting_running hrunning] at hbalance
    constructor
    · rw [waiting_running]
      · simp only [List.flatten_append, List.length_append, List.flatMap_append, UInt64.ofNat_add,
          List.flatten_singleton, List.flatMap_singleton, Mark.lost, List.append_nil]
        grind
      · exact hrunning
    · simp only [List.flatMap_append, List.length_append, UInt64.ofNat_add, List.flatMap_singleton,
        Mark.accepted, haccepted]
    · simpa [Mark.dropped] using h.dropped
    · intro hphase
      simpa [Mark.lost] using h.lost hphase
  · rw [hanswer, hstate]
    have hbalance := h.balance
    have hdropped := h.dropped
    constructor
    · simpa [Mark.lost, waiting] using hbalance
    · simpa [Mark.accepted] using h.accepted
    · simp only [List.flatMap_append, List.length_append, UInt64.ofNat_add, List.flatMap_singleton,
        Mark.dropped, hdropped]
    · intro hphase
      simpa [Mark.lost] using h.lost hphase

theorem Accounts.kill {trace : List Mark} {w : Writer} (h : Accounts trace w)
    (hemptied : w.Emptied) : Accounts (trace ++ [.killed w.waiting]) w.kill := by
  by_cases hrunning : w.phase = .running
  · have hkill : w.kill = { w with phase := .killed false } := if_pos hrunning
    have hnone : trace.flatMap Mark.lost = [] := h.lost (by simp [hrunning])
    have hbalance := h.balance
    rw [hnone] at hbalance
    rw [hkill]
    constructor
    · simp only [List.flatMap_append, hnone, List.flatMap_singleton, Mark.lost, List.nil_append]
      -- what was waiting is lost now
      change w.stats.submitted = w.stats.persisted + w.stats.failed + 0 + _
      change w.stats.submitted = w.stats.persisted + w.stats.failed + _ + 0 at hbalance
      grind
    · simpa [Mark.accepted] using h.accepted
    · simpa [Mark.dropped] using h.dropped
    · intro hphase
      exact absurd rfl (hphase false)
  · have hkill : w.kill = w := if_neg hrunning
    rw [hkill, hemptied.waiting hrunning]
    exact h.silent _ rfl rfl rfl

theorem Accounts.drains {store : Store σ} {x y : Writer × σ} {trace : List Mark}
    (h : Accounts trace x.1) (hdrains : Drains store x y) : Accounts trace y.1 := by
  rcases x with ⟨w, s⟩
  unfold Drains at hdrains
  split at hdrains
  · rename_i hrunning
    rcases hdrains with ⟨done, hfinishes, rfl⟩
    obtain ⟨hsubmitted, hdropped⟩ := hfinishes.submitted
    have hbalance := h.balance
    rw [waiting_running hrunning] at hbalance
    constructor
    · change done.stats.submitted = done.stats.persisted + done.stats.failed + _ + _
      rw [waiting_running]
      · rw [hsubmitted, hfinishes.total, hbalance]
        exact congrArg (· + _) (UInt64.add_zero _).symm
      · exact hrunning
    · exact hsubmitted.trans h.accepted
    · exact hdropped.trans h.dropped
    · exact h.lost
  · rw [hdrains]
    exact h

theorem Accounts.close {trace : List Mark} {w : Writer} (h : Accounts trace w) :
    Accounts trace w.close := by
  constructor
  · rw [close_waiting]
    exact h.balance
  · exact h.accepted
  · exact h.dropped
  · intro hclose
    refine h.lost fun joined hphase => hclose true ?_
    change w.phase.after .shutdown = _
    rw [hphase]
    rfl

theorem Obeys.accounts {store : Store σ} {order : Order} {x y : Writer × σ} {trace : List Mark}
    (hobeys : Obeys store order x y) (h : Accounts trace x.1) (hemptied : x.1.Emptied) :
    Accounts (trace ++ [x.1.mark order]) y.1 := by
  rcases x with ⟨w, s⟩
  cases order with
  | send batch =>
    obtain rfl : y = ((w.submit batch).state, s) := hobeys
    exact h.submit batch
  | lock locked =>
    obtain rfl : y = (w, store.lock locked s) := hobeys
    exact h.silent _ rfl rfl rfl
  | drain => exact (h.drains hobeys).silent _ rfl rfl rfl
  | shutdown =>
    rcases hobeys with ⟨z, hdrains, rfl⟩
    exact (h.drains hdrains).close.silent _ rfl rfl rfl
  | kill =>
    obtain rfl : y = (w.kill, s) := hobeys
    exact h.kill hemptied

theorem Drains.persisted {store : Store σ} {kept : σ → List Record} (hkept : store.Appends kept)
    {x y : Writer × σ} (h : Drains store x y) :
    y.1.stats.persisted + .ofNat (kept x.2).length =
      x.1.stats.persisted + .ofNat (kept y.2).length := by
  unfold Drains at h
  split at h
  · rcases h with ⟨done, hfinishes, rfl⟩
    exact hfinishes.persisted hkept
  · rw [h]

/-- What is counted as persisted grows with what the store keeps, if its lock leaves that alone. -/
theorem Obeys.persisted {store : Store σ} {kept : σ → List Record} (hkept : store.Appends kept)
    (hlock : ∀ locked s, kept (store.lock locked s) = kept s) {order : Order} {x y : Writer × σ}
    (h : Obeys store order x y) :
    y.1.stats.persisted + .ofNat (kept x.2).length =
      x.1.stats.persisted + .ofNat (kept y.2).length := by
  rcases x with ⟨w, s⟩
  cases order with
  | send batch =>
    obtain rfl : y = ((w.submit batch).state, s) := h
    rw [(submit_frame w batch).2.2]
  | lock locked =>
    obtain rfl : y = (w, store.lock locked s) := h
    rw [hlock]
  | drain => exact Drains.persisted hkept h
  | shutdown =>
    rcases h with ⟨z, hdrains, rfl⟩
    exact hdrains.persisted hkept
  | kill =>
    obtain rfl : y = (w.kill, s) := h
    rw [kill_stats]

theorem submit_uncounted {w : Writer} {batch : List Record}
    (h : batch = [] ∨ (w.submit batch).answer = .error .stopped) : (w.submit batch).state = w := by
  rcases submit_cases w batch with ⟨-, hsubmit⟩ | ⟨-, hsubmit⟩ | ⟨hrunning, hroom, hanswer, -⟩ |
    ⟨hrunning, hroom, hanswer, -⟩
  · rw [hsubmit]
  · rw [hsubmit]
  · cases h with
    | inl hnil =>
      rw [hnil]
      rfl
    | inr hstopped =>
      rw [hanswer] at hstopped
      cases hstopped
  · cases h with
    | inl hnil =>
      rw [hnil]
      rfl
    | inr hstopped =>
      rw [hanswer] at hstopped
      cases hstopped

/-- Once a writer has stopped in order, every record that was queued is persisted or failed. -/
theorem Accounts.settled {trace : List Mark} {w : Writer} (h : Accounts trace w)
    (hemptied : w.Emptied) (hstopped : w.phase = .stopped) :
    w.stats.submitted = w.stats.persisted + w.stats.failed := by
  have hbalance := h.balance
  have hlost : trace.flatMap Mark.lost = [] := h.lost (by simp [hstopped])
  have hwaiting : w.waiting = [] := hemptied.waiting (by rw [hstopped]; decide)
  rw [hlost, hwaiting] at hbalance
  exact hbalance.trans ((UInt64.add_zero _).trans (UInt64.add_zero _))

/-- If all was queued that was handed over, what is persisted decides the other counts in the end. -/
theorem Accounts.stats_eq {trace : List Mark} {w : Writer} (h : Accounts trace w)
    (hemptied : w.Emptied) (hstopped : w.phase = .stopped)
    (hroom : trace.flatMap Mark.dropped = []) {records : List Record}
    (hrecords : trace.flatMap Mark.accepted = records) {n : Nat} (hn : w.stats.persisted = .ofNat n) :
    w.stats = ⟨.ofNat records.length, .ofNat n, .ofNat records.length - .ofNat n, 0⟩ := by
  have hsubmitted := h.accepted
  have hdropped := h.dropped
  have hfailed := h.settled hemptied hstopped
  rw [hrecords] at hsubmitted
  rw [hroom] at hdropped
  rw [hsubmitted, hn] at hfailed
  calc w.stats = ⟨w.stats.submitted, w.stats.persisted, w.stats.failed, w.stats.dropped⟩ := rfl
    _ = ⟨.ofNat records.length, .ofNat n, .ofNat records.length - .ofNat n, 0⟩ := by
      have hrest : w.stats.failed = .ofNat records.length - .ofNat n := by grind
      rw [hsubmitted, hn, hrest, hdropped]
      rfl

end Writer
end CallHistory
