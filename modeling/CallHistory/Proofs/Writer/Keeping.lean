import CallHistory.Proofs.Pool.Agreement
import CallHistory.Proofs.Writer.Accounts

/-! # What a writer brings into its store

Suppose that the record alone decides whether a store keeps it, and that nobody turns the lock or
cancels the workers. Then the store keeps, of what is queued, just the records that it keeps at all:
some of them already and the others when they are written. A single worker brings them in the order
in which they were queued.
-/

namespace CallHistory

variable {σ : Type} {store : Store σ} {ok : σ → Prop} {keeps : Record → Bool}
  {kept : σ → List Record}

theorem Pool.Finishes.store_ok {n : Nat} {queue : List (List Record)} {stats : WriterStats} {s : σ}
    {done : Pool σ} (hdecides : store.Decides ok keeps) (h : Finishes store n queue stats s done)
    (hok : ok s) : ok done.store :=
  h.induction (P := fun q => ok q.store) (fun hturn hq => hturn.ok hdecides hq) hok

/-- An order that neither turns the lock nor cancels the workers. -/
def Order.IsPlain : Order → Prop
  | .send _ | .drain | .shutdown => True
  | .lock _ | .kill => False

namespace Writer

/-- What the store keeps, with what it will keep of what is waiting. -/
def bound (keeps : Record → Bool) (kept : σ → List Record) (x : Writer × σ) : List Record :=
  kept x.2 ++ x.1.waiting.flatten.filter keeps

/-- Of what was queued, the store keeps or will keep just what it keeps at all, and what it keeps now is
counted. -/
structure Keeping (ok : σ → Prop) (keeps : Record → Bool) (kept : σ → List Record)
    (before : List Record) (trace : List Mark) (x : Writer × σ) : Prop where
  ok : ok x.2
  perm : (bound keeps kept x).Perm (before ++ (trace.flatMap Mark.accepted).filter keeps)
  order : x.1.workers = 1 →
    bound keeps kept x = before ++ (trace.flatMap Mark.accepted).filter keeps
  count : x.1.stats.persisted + .ofNat before.length = .ofNat (kept x.2).length

theorem keeping_new {s : σ} (hok : ok s) (capacity workers : Nat) :
    Keeping ok keeps kept (kept s) [] ({ capacity, workers }, s) where
  ok := hok
  perm := List.Perm.refl _
  order _ := rfl
  count := UInt64.zero_add _

theorem accepted_submit {w : Writer} (hrunning : w.phase = .running) {batch : List Record}
    (hroom : (Mark.sent batch (w.submit batch).answer).dropped = []) :
    (Mark.sent batch (w.submit batch).answer).accepted = batch := by
  rcases submit_cases w batch with ⟨-, hsubmit⟩ | ⟨hidle, -⟩ | ⟨-, -, hanswer, -⟩ |
    ⟨-, -, hanswer, -⟩
  · rw [hsubmit]
    rfl
  · exact absurd hrunning hidle
  · rw [hanswer]
    rfl
  · -- a batch that finds the queue full has to be empty
    rw [hanswer] at hroom ⊢
    exact hroom.symm

theorem bound_submit (w : Writer) (batch : List Record) (s : σ) :
    bound keeps kept ((w.submit batch).state, s) =
      bound keeps kept (w, s) ++
        (Mark.sent batch (w.submit batch).answer).accepted.filter keeps := by
  rcases submit_cases w batch with ⟨rfl, hsubmit⟩ | ⟨-, hsubmit⟩ |
    ⟨hrunning, -, hanswer, hstate⟩ | ⟨hrunning, -, hanswer, hstate⟩
  · simp [hsubmit, Mark.accepted]
  · simp [hsubmit, Mark.accepted]
  · simp [hanswer, hstate, Mark.accepted, bound, waiting, hrunning]
  · simp [hanswer, hstate, Mark.accepted, bound, waiting]

theorem Drains.bound (hdecides : store.Decides ok keeps) (hkept : store.Appends kept)
    {x y : Writer × σ} (h : Drains store x y) (hok : ok x.2) :
    ok y.2 ∧ (bound keeps kept y).Perm (bound keeps kept x) ∧
      (x.1.workers = 1 → Writer.bound keeps kept y = Writer.bound keeps kept x) := by
  by_cases hrunning : x.1.phase = .running
  · have hsingle (hworkers : x.1.workers = 1) :
        Writer.bound keeps kept y = Writer.bound keeps kept x := by
      have hstored := (hdecides.work hkept x.1.queue x.1.stats hok).2
      rw [h.eq_drain hworkers, drain_running store hrunning]
      simp [Writer.bound, waiting, hrunning, hstored]
    rcases (if_pos hrunning).mp h with ⟨done, hfinishes, rfl⟩
    obtain ⟨new, hstored, hall⟩ := hfinishes.interleaving hdecides hkept hok
    have hnew : new.Perm (x.1.queue.flatten.filter keeps) := by
      rw [List.filter_flatten]
      exact hall.flatten_perm
    refine ⟨hfinishes.store_ok hdecides hok, ?_, hsingle⟩
    simpa [Writer.bound, waiting, hrunning, hstored] using hnew.append_left (kept x.2)
  · obtain rfl : y = x := (if_neg hrunning).mp h
    exact ⟨hok, List.Perm.refl _, fun _ => rfl⟩

variable {before : List Record} {trace : List Mark}

theorem Keeping.drains (hdecides : store.Decides ok keeps) (hkept : store.Appends kept)
    {x y : Writer × σ} (h : Keeping ok keeps kept before trace x) (hdrains : Drains store x y) :
    Keeping ok keeps kept before (trace ++ [.flushed]) y := by
  obtain ⟨hok, hperm, hsingle⟩ := hdrains.bound hdecides hkept h.ok
  have htrace : (trace ++ [Mark.flushed]).flatMap Mark.accepted = trace.flatMap Mark.accepted := by
    simp [Mark.accepted]
  refine ⟨hok, ?_, fun hworkers => ?_, ?_⟩
  · rw [htrace]
    exact hperm.trans h.perm
  · rw [hdrains.frame.2] at hworkers
    rw [htrace, hsingle hworkers]
    exact h.order hworkers
  · have hgrow := hdrains.persisted hkept
    have hcount := h.count
    grind

theorem Keeping.submit {w : Writer} {s : σ} (h : Keeping ok keeps kept before trace (w, s))
    (batch : List Record) :
    Keeping ok keeps kept before (trace ++ [.sent batch (w.submit batch).answer])
      ((w.submit batch).state, s) := by
  refine ⟨h.ok, ?_, fun hworkers => ?_, ?_⟩
  · rw [bound_submit, List.flatMap_append, List.flatMap_singleton, List.filter_append,
      ← List.append_assoc]
    exact h.perm.append_right _
  · change (w.submit batch).state.workers = 1 at hworkers
    rw [(submit_frame w batch).2.1] at hworkers
    rw [bound_submit, List.flatMap_append, List.flatMap_singleton, List.filter_append,
      ← List.append_assoc, h.order hworkers]
  · rw [(submit_frame w batch).2.2]
    exact h.count

theorem Obeys.keeping (hdecides : store.Decides ok keeps) (hkept : store.Appends kept) {order : Order}
    {x y : Writer × σ} (hobeys : Obeys store order x y) (hplain : order.IsPlain)
    (h : Keeping ok keeps kept before trace x) :
    Keeping ok keeps kept before (trace ++ [x.1.mark order]) y := by
  rcases x with ⟨w, s⟩
  cases order with
  | send batch =>
    obtain rfl : y = ((w.submit batch).state, s) := hobeys
    exact h.submit batch
  | drain => exact h.drains hdecides hkept hobeys
  | shutdown =>
    rcases hobeys with ⟨z, hdrains, rfl⟩
    have hz := h.drains hdecides hkept hdrains
    have hclose : Writer.bound keeps kept (z.1.close, z.2) = Writer.bound keeps kept z := by
      unfold Writer.bound
      rw [close_waiting]
    refine ⟨hz.ok, ?_, fun hworkers => ?_, hz.count⟩
    · rw [hclose]
      exact hz.perm
    · rw [hclose]
      exact hz.order hworkers
  | lock locked => exact hplain.elim
  | kill => exact hplain.elim

theorem Keeping.kept_perm {x : Writer × σ} (h : Keeping ok keeps kept before trace x)
    (hwaiting : x.1.waiting = []) :
    (kept x.2).Perm (before ++ (trace.flatMap Mark.accepted).filter keeps) ∧
      (x.1.workers = 1 → kept x.2 = before ++ (trace.flatMap Mark.accepted).filter keeps) := by
  have hbound : bound keeps kept x = kept x.2 := by simp [bound, hwaiting]
  rw [← hbound]
  exact ⟨h.perm, h.order⟩

theorem Keeping.persisted_eq {x : Writer × σ} (h : Keeping ok keeps kept before trace x)
    (hwaiting : x.1.waiting = []) :
    x.1.stats.persisted = .ofNat ((trace.flatMap Mark.accepted).filter keeps).length := by
  have hcount := h.count
  rw [(h.kept_perm hwaiting).1.length_eq, List.length_append, UInt64.ofNat_add] at hcount
  grind

end Writer
end CallHistory
