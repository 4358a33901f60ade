import CallHistory.Proofs.Pool.Counts
import CallHistory.Proofs.Writer.Accounts

/-! # What the store is given

Every record that was queued is given to the store once, unless it is still waiting or was lost when
the workers were cancelled. The workers may change the order of the records but not their number.
-/

namespace CallHistory

variable {σ : Type}

namespace Store

/-- A reading of what a store has been given, with what became of each record. -/
structure Notes (store : Store σ) (given : σ → List (Record × Outcome)) : Prop where
  write : ∀ r s, given (store.write r s).state = given s ++ [(r, (store.write r s).answer)]
  lock : ∀ locked s, given (store.lock locked s) = given s

def attending (store : Store σ) : Store (σ × List (Record × Outcome)) where
  add r s :=
    let reply := store.add r s.1
    ⟨reply.answer, (reply.state, s.2 ++ [(r, .ofReply reply.answer)]), reply.report⟩
  lock b s := (store.lock b s.1, s.2)

theorem attending_notes (store : Store σ) : store.attending.Notes Prod.snd where
  write _ _ := rfl
  lock _ _ := rfl

end Store

variable {store : Store σ} {given : σ → List (Record × Outcome)}

def timesGiven (given : σ → List (Record × Outcome)) (r : Record) (s : σ) : Nat :=
  ((given s).map Prod.fst).count r

theorem Store.Notes.timesGiven_write (h : store.Notes given) (r x : Record) (s : σ) :
    timesGiven given x (store.write r s).state = timesGiven given x s + [r].count x := by
  simp only [timesGiven, h.write, List.map_append, List.map_cons, List.map_nil, List.count_append]

namespace Pool

def timesOwed (r : Record) (p : Pool σ) : Nat :=
  p.queue.flatten.count r + (p.workers.flatMap Worker.rest).count r

/-- No turn changes how often a record has been given or is still to be given. -/
theorem Turn.times (hnotes : store.Notes given) (x : Record) {p q : Pool σ} (h : Turn store p q) :
    timesGiven given x q.store + q.timesOwed x = timesGiven given x p.store + p.timesOwed x := by
  cases h with
  | pass => rfl
  | take batch queue before after stats s =>
    simp only [timesOwed, List.flatten_cons, List.flatMap_append, List.flatMap_cons,
      List.count_append, Worker.rest_busy, Worker.rest_idle, List.count_nil]
    omega
  | write queue before r rest outcomes after stats s =>
    have hrest : (r :: rest).count x = [r].count x + rest.count x := by
      rw [← List.count_append, List.singleton_append]
    simp only [timesOwed, List.flatMap_append, List.flatMap_cons, List.count_append,
      Worker.rest_busy, hnotes.timesGiven_write, hrest]
    omega
  | settle queue before outcomes after stats s =>
    simp only [timesOwed, List.flatMap_append, List.flatMap_cons, List.count_append,
      Worker.rest_busy, Worker.rest_idle]

theorem start_timesOwed (r : Record) (n : Nat) (queue : List (List Record)) (stats : WriterStats)
    (s : σ) : (start n queue stats s).timesOwed r = queue.flatten.count r := by
  have hidle : (List.replicate n Worker.idle).flatMap Worker.rest = [] := by
    rw [List.flatMap_eq_nil_iff]
    intro w hw
    rw [List.eq_of_mem_replicate hw]
    rfl
  simp only [timesOwed, start, hidle, List.count_nil, Nat.add_zero]

theorem Finishes.times (hnotes : store.Notes given) (x : Record) {n : Nat}
    {queue : List (List Record)} {stats : WriterStats} {s : σ} {done : Pool σ}
    (h : Finishes store n queue stats s done) :
    timesGiven given x done.store = timesGiven given x s + queue.flatten.count x := by
  have hsum := h.induction (P := fun q => timesGiven given x q.store + q.timesOwed x =
    timesGiven given x s + queue.flatten.count x)
    (fun hturn hp => (hturn.times hnotes x).trans hp) (by rw [start_timesOwed]; rfl)
  rw [timesOwed, h.isQuiet.1, h.isQuiet.flatMap_workers rfl] at hsum
  exact hsum

end Pool

namespace Writer

/-- Every record that was queued since a state has been given to the store, is waiting or is lost. -/
def NoneAstray (given : σ → List (Record × Outcome)) (s : σ) (trace : List Mark) (x : Writer × σ) :
    Prop :=
  ∀ r, timesGiven given r x.2 + x.1.waiting.flatten.count r + (trace.flatMap Mark.lost).count r =
    timesGiven given r s + (trace.flatMap Mark.accepted).count r

theorem noneAstray_new (s : σ) (capacity workers : Nat) :
    NoneAstray given s [] ({ capacity, workers }, s) := fun _ => rfl

theorem Drains.times (hnotes : store.Notes given) (r : Record) {x y : Writer × σ}
    (h : Drains store x y) :
    timesGiven given r y.2 + y.1.waiting.flatten.count r =
      timesGiven given r x.2 + x.1.waiting.flatten.count r := by
  rcases x with ⟨w, s⟩
  unfold Drains at h
  split at h
  · rename_i hrunning
    rcases h with ⟨done, hfinishes, rfl⟩
    rw [waiting_running hrunning, waiting_running]
    · exact hfinishes.times hnotes r
    · exact hrunning
  · rw [h]

theorem NoneAstray.silent {s : σ} {trace : List Mark} {x : Writer × σ} (h : NoneAstray given s trace x)
    (m : Mark) (haccepted : m.accepted = []) (hlost : m.lost = []) :
    NoneAstray given s (trace ++ [m]) x := by
  intro r
  have hr := h r
  simp only [List.flatMap_append, List.flatMap_singleton, haccepted, hlost, List.append_nil]
  exact hr

theorem NoneAstray.submit {s t : σ} {trace : List Mark} {w : Writer} (h : NoneAstray given s trace (w, t))
    (batch : List Record) :
    NoneAstray given s (trace ++ [.sent batch (w.submit batch).answer]) ((w.submit batch).state, t) := by
  rcases submit_cases w batch with ⟨rfl, hsubmit⟩ | ⟨-, hsubmit⟩ |
    ⟨hrunning, -, hanswer, hstate⟩ | ⟨hrunning, -, hanswer, hstate⟩
  · rw [hsubmit]
    exact h.silent _ rfl rfl
  · rw [hsubmit]
    exact h.silent _ rfl rfl
  · rw [hanswer, hstate]
    intro r
    have hr := h r
    rw [waiting_running hrunning] at hr
    rw [waiting_running]
    · simp only [List.flatten_append, List.flatten_singleton, List.flatMap_append,
        List.flatMap_singleton, List.count_append, Mark.lost, Mark.accepted, List.count_nil]
      simp only at hr
      omega
    · exact hrunning
  · rw [hanswer, hstate]
    have hsame : NoneAstray given s trace ({ w with
        stats := { w.stats with dropped := w.stats.dropped + .ofNat batch.length } }, t) := h
    exact hsame.silent _ rfl rfl

theorem NoneAstray.kill {s t : σ} {trace : List Mark} {w : Writer} (h : NoneAstray given s trace (w, t))
    (hemptied : w.Emptied) : NoneAstray given s (trace ++ [.killed w.waiting]) (w.kill, t) := by
  by_cases hrunning : w.phase = .running
  · have hkill : w.kill = { w with phase := .killed false } := if_pos hrunning
    intro r
    have hr := h r
    rw [hkill]
    simp only [List.flatMap_append, List.flatMap_singleton, List.count_append, Mark.lost,
      Mark.accepted, List.count_nil]
    change _ + 0 + _ = _
    simp only at hr
    omega
  · have hkill : w.kill = w := if_neg hrunning
    rw [hkill, hemptied.waiting hrunning]
    exact h.silent _ rfl rfl

theorem Obeys.noneAstray (hnotes : store.Notes given) {s : σ} {order : Order} {x y : Writer × σ}
    {trace : List Mark} (hobeys : Obeys store order x y) (h : NoneAstray given s trace x)
    (hemptied : x.1.Emptied) : NoneAstray given s (trace ++ [x.1.mark order]) y := by
  have hflushed {z : Writer × σ} (hdrains : Drains store x z) :
      NoneAstray given s (trace ++ [.flushed]) z := by
    have hz : NoneAstray given s trace z := fun r => by
      rw [hdrains.times hnotes r]
      exact h r
    exact hz.silent _ rfl rfl
  cases order with
  | send batch =>
    rcases x with ⟨w, t⟩
    obtain rfl : y = ((w.submit batch).state, t) := hobeys
    exact h.submit batch
  | lock locked =>
    rcases x with ⟨w, t⟩
    obtain rfl : y = (w, store.lock locked t) := hobeys
    have hlocked : NoneAstray given s trace (w, store.lock locked t) := fun r => by
      have hsame : timesGiven given r (store.lock locked t) = timesGiven given r t := by
        rw [timesGiven, hnotes.lock, timesGiven]
      rw [hsame]
      exact h r
    exact hlocked.silent _ rfl rfl
  | drain => exact hflushed hobeys
  | shutdown =>
    rcases hobeys with ⟨z, hdrains, rfl⟩
    have hz := hflushed hdrains
    intro r
    rw [close_waiting]
    exact hz r
  | kill =>
    rcases x with ⟨w, t⟩
    obtain rfl : y = (w.kill, t) := hobeys
    exact h.kill hemptied

end Writer
end CallHistory
