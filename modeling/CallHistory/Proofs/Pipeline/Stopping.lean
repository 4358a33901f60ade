import CallHistory.Proofs.Pipeline.Accounts
import CallHistory.Proofs.Pipeline.Replies
import CallHistory.Proofs.Writer.Giving

/-! # Stopping for good

A writer can be stopped in two ways: by a shutdown, which writes what is queued, and by a kill, which
does not. After either of them nothing that is asked of a pipeline brings the writer back. What is
never handed to the writer is answered as before.
-/

namespace CallHistory

variable {σ : Type} {store : Store σ}

namespace Writer

theorem Obeys.frozen {order : Order} {x y : Writer × σ} (h : Obeys store order x y)
    (hidle : x.1.phase ≠ .running) :
    y.1.phase ≠ .running ∧ y.1.stats = x.1.stats ∧ y.1.queue = x.1.queue ∧
      (y.2 = x.2 ∨ ∃ locked, y.2 = store.lock locked x.2) := by
  have hstays {z : Writer × σ} (hdrains : Drains store x z) : z = x := by
    unfold Drains at hdrains
    rwa [if_neg hidle] at hdrains
  cases order with
  | send batch =>
    rcases x with ⟨w, s⟩
    obtain rfl : y = ((w.submit batch).state, s) := h
    rw [submit_stopped batch hidle]
    exact ⟨hidle, rfl, rfl, .inl rfl⟩
  | lock locked =>
    rcases x with ⟨w, s⟩
    obtain rfl : y = (w, store.lock locked s) := h
    exact ⟨hidle, rfl, rfl, .inr ⟨locked, rfl⟩⟩
  | drain =>
    rw [hstays h]
    exact ⟨hidle, rfl, rfl, .inl rfl⟩
  | shutdown =>
    rcases h with ⟨z, hdrains, rfl⟩
    rw [hstays hdrains]
    refine ⟨?_, rfl, rfl, .inl rfl⟩
    change x.1.phase.after .shutdown ≠ .running
    cases x.1.phase <;> simp [WriterPhase.after]
  | kill =>
    rcases x with ⟨w, s⟩
    obtain rfl : y = (w.kill, s) := h
    have hkill : w.kill = w := if_neg hidle
    rw [hkill]
    exact ⟨hidle, rfl, rfl, .inl rfl⟩

theorem submit_refused {w : Writer} {batch : List Record} (hidle : w.phase ≠ .running)
    (hbatch : batch ≠ []) : w.submit batch = ⟨.error .stopped, w, {}⟩ := by
  rcases submit_cases w batch with ⟨hnil, -⟩ | ⟨-, hsubmit⟩ | ⟨hrunning, -⟩ | ⟨hrunning, -⟩
  · exact absurd hnil hbatch
  · exact hsubmit
  · exact absurd hrunning hidle
  · exact absurd hrunning hidle

end Writer

/-- What is answered once the writer has stopped: what is not handed to it is answered as before. -/
def Answer.onceStopped : Answer → Answer
  | .logged (.done .suppressed) => .logged (.done .suppressed)
  | .logged _ => .logged (.refused .stopped)
  | .handled (.done none) => .handled (.done none)
  | .handled (.done (some .suppressed)) => .handled (.done (some .suppressed))
  | .handled _ => .handled (.refused .stopped)
  | answer => answer

namespace Pipeline

/-- Once the writer does not run, its counts and its queue stay as they are, and the store is at most
locked and unlocked. -/
theorem Reaches.frozen {p q : Pipeline σ} {requests : List Request} {trace : List Mark}
    (h : Reaches store p requests trace q) (hidle : p.writer.phase ≠ .running) :
    q.writer.phase ≠ .running ∧ q.writer.stats = p.writer.stats ∧
      q.writer.queue = p.writer.queue ∧
      ∀ {α : Type} (kept : σ → α), (∀ locked s, kept (store.lock locked s) = kept s) →
        kept q.store = kept p.store :=
  h.induction (P := fun _ x => x.1.phase ≠ .running ∧ x.1.stats = p.writer.stats ∧
      x.1.queue = p.writer.queue ∧
      ∀ {α : Type} (kept : σ → α), (∀ locked s, kept (store.lock locked s) = kept s) →
        kept x.2 = kept p.store)
    (fun {trace order x y} hobeys ⟨hx, hstats, hqueue, hkept⟩ => by
      obtain ⟨hy, hstats', hqueue', hstore⟩ := hobeys.frozen hx
      refine ⟨hy, hstats'.trans hstats, hqueue'.trans hqueue, fun kept hlock => ?_⟩
      rcases hstore with hsame | ⟨locked, hlocked⟩
      · rw [hsame, hkept kept hlock]
      · rw [hlocked, hlock, hkept kept hlock])
    ⟨hidle, rfl, rfl, fun _ _ => rfl⟩

/-- The log answers as before what policy keeps out, and refuses everything else. -/
theorem step_log_onceStopped {p q : Pipeline σ} (hidle : q.writer.phase ≠ .running)
    (hdispatcher : q.dispatcher = p.dispatcher) (r : Record) :
    (q.step store (.log r)).answer = (p.step store (.log r)).answer.onceStopped := by
  change Answer.logged (q.dispatcher.log Writer.submitter r q.writer).answer =
    (Answer.logged (p.dispatcher.log Writer.submitter r p.writer).answer).onceStopped
  rw [Dispatcher.log_answer, Dispatcher.log_answer, hdispatcher]
  cases hbatch : p.dispatcher.batch? r with
  | none => rfl
  | some batch =>
    obtain ⟨-, rfl⟩ := Dispatcher.batch?_eq_some.mp hbatch
    simp only [Writer.submit_refused hidle (List.cons_ne_nil r [])]
    cases (p.writer.submit [r]).answer <;> rfl

theorem step_handle_onceStopped {p q : Pipeline σ} (hidle : q.writer.phase ≠ .running)
    (hdispatcher : q.dispatcher = p.dispatcher) (t : Transition) :
    (q.step store (.handle t)).answer = (p.step store (.handle t)).answer.onceStopped := by
  change Answer.handled (q.dispatcher.handle Writer.submitter t q.writer).answer =
    (Answer.handled (p.dispatcher.handle Writer.submitter t p.writer).answer).onceStopped
  rw [Dispatcher.handle_answer, Dispatcher.handle_answer, hdispatcher]
  cases hrecord : Dispatcher.recordOf? t with
  | none => rfl
  | some r =>
    simp only [Dispatcher.log_answer]
    cases hbatch : p.dispatcher.batch? r with
    | none => rfl
    | some batch =>
      obtain ⟨-, rfl⟩ := Dispatcher.batch?_eq_some.mp hbatch
      simp only [Writer.submit_refused hidle (List.cons_ne_nil r [])]
      cases (p.writer.submit [r]).answer <;> rfl

theorem Reaches.settled {d : Dispatcher} {workers capacity : Nat} {s : σ}
    {started : Step (Pipeline σ) Unit} (hstart : start? d workers capacity s = some started)
    {requests : List Request} {trace : List Mark} {p : Pipeline σ}
    (h : Reaches store started.state requests trace p) (hstopped : p.writer.phase = .stopped) :
    p.writer.queue = [] ∧ p.writer.stats.submitted = p.writer.stats.persisted + p.writer.stats.failed ∧
      ∀ given, store.Notes given →
        ((given p.store).map Prod.fst).Perm
          ((given s).map Prod.fst ++ trace.flatMap Mark.accepted) := by
  rw [start?_spec hstart] at h
  obtain ⟨haccounts, hemptied⟩ := h.induction
    (P := fun trace x => x.1.Accounts trace ∧ x.1.Emptied)
    (fun hobeys hx => ⟨hobeys.accounts hx.1 hx.2, hobeys.emptied hx.2⟩)
    ⟨Writer.accounts_new _ _, Writer.emptied_new _ _⟩
  refine ⟨hemptied hstopped, haccounts.settled hemptied hstopped, fun given hnotes => ?_⟩
  obtain ⟨hgiven, -⟩ := h.induction
    (P := fun trace x => Writer.NoneAstray given s trace x ∧ x.1.Emptied)
    (fun hobeys hx => ⟨hobeys.noneAstray hnotes hx.1 hx.2, hobeys.emptied hx.2⟩)
    ⟨Writer.noneAstray_new s _ _, Writer.emptied_new _ _⟩
  have hlost : trace.flatMap Mark.lost = [] := haccounts.lost (by simp [hstopped])
  have hwaiting : p.writer.waiting = [] := hemptied.waiting (by rw [hstopped]; decide)
  rw [List.perm_iff_count]
  intro r
  have hr := hgiven r
  rw [hlost, hwaiting] at hr
  rw [List.count_append]
  exact hr

/-- Whatever is asked of a pipeline after a shutdown or a kill: the counts and all that the lock of the
store leaves alone stay as the stop left them, every batch with records in it is refused, and the
answers of the log and of the handling of a transition are those from before the stop, but that what
would be handed over is refused. After a shutdown that no kill came before, the queue is empty, and
every record that was queued has been given to the store and is counted as persisted or failed. -/
theorem stopped_for_good {d : Dispatcher} {workers capacity : Nat} {s : σ}
    {started : Step (Pipeline σ) Unit} (hstart : start? d workers capacity s = some started)
    {before : List Request} {trace : List Mark} {p : Pipeline σ}
    (hbefore : Reaches store started.state before trace p) {stop : Request}
    (hstop : stop = .shutdown ∨ stop = .kill) {p' : Pipeline σ} (hanswers : Answers store p stop p')
    {after : List Request} {later : List Mark} {q : Pipeline σ}
    (hafter : Reaches store p' after later q) :
    (q.writer.stats = p'.writer.stats ∧
      ∀ {α : Type} (kept : σ → α), (∀ locked t, kept (store.lock locked t) = kept t) →
        kept q.store = kept p'.store) ∧
    (∀ batch, batch ≠ [] → q.step store (.submit batch) = ⟨.submitted (.error .stopped), q, {}⟩) ∧
    (∀ r, (q.step store (.log r)).answer = (p.step store (.log r)).answer.onceStopped) ∧
    (∀ t, (q.step store (.handle t)).answer = (p.step store (.handle t)).answer.onceStopped) ∧
    (stop = .shutdown → .kill ∉ before →
      q.writer.queue = [] ∧
      q.writer.stats.submitted = q.writer.stats.persisted + q.writer.stats.failed ∧
      ∀ given, store.Notes given →
        ((given q.store).map Prod.fst).Perm
          ((given s).map Prod.fst ++ trace.flatMap Mark.accepted)) := by
  have hidle : p'.writer.phase ≠ .running := by
    rw [hanswers.frame.1]
    rcases hstop with rfl | rfl
    · cases p.writer.phase <;> simp [phaseAfter, WriterPhase.after]
    · cases p.writer.phase <;> simp [phaseAfter, WriterPhase.after]
  obtain ⟨hidle', hstats, hqueue, hkept⟩ := hafter.frozen hidle
  have hdispatcher : q.dispatcher = p.dispatcher :=
    hafter.dispatcher.trans hanswers.dispatcher
  refine ⟨⟨hstats, hkept⟩, fun batch hbatch => ?_, step_log_onceStopped hidle' hdispatcher,
    step_handle_onceStopped hidle' hdispatcher, ?_⟩
  · simp only [step, Writer.submit_refused hidle' hbatch]
  · rintro rfl hkill
    have hreaches := hbefore.next hanswers
    have hstopped : p'.writer.phase = .stopped := by
      rw [hreaches.phase, start?_spec hstart]
      exact stopped_of_shutdown hkill
    obtain ⟨hempty, hsettled, hgiven⟩ := hreaches.settled hstart hstopped
    refine ⟨hqueue.trans hempty, by rw [hstats]; exact hsettled, fun given hnotes => ?_⟩
    have hall := hgiven given hnotes
    have hflushed : (trace ++ (p.mark? .shutdown).toList).flatMap Mark.accepted =
        trace.flatMap Mark.accepted := by
      rw [List.flatMap_append]
      exact List.append_nil _
    rw [hflushed] at hall
    rw [hkept given hnotes.lock]
    exact hall

/-- One record is stored and one has a fault, and a third is queued when the writer is stopped: by a
shutdown, which stores it, and by a kill, which does not. -/
theorem stopped_for_good_both_ways :
    let record (number : String) : Record := .make none (some number) .allowed .incoming 0 0
    let store := (Memory.store.behind [("2", .crash)]).attending
    let start : Pipeline (Memory × List (Record × Outcome)) :=
      { dispatcher := ⟨⟨false⟩, .standard⟩
        writer := { capacity := 2, workers := 2 }
        store := ({ supply := ⟨Uuid.ofNat, fun _ => default, 0⟩ }, []) }
    let p := (run store [.submit [record "1", record "2"], .drain, .submit [record "3"]] start).state
    let after : List Request :=
      [.submit [record "4"], .lock true, .drain, .log (record "5"), .kill, .shutdown]
    let shut := (p.step store .shutdown).state
    let killed := (p.step store .kill).state
    let q := (run store after shut).state
    let q' := (run store after killed).state
    (q.writer.stats = shut.writer.stats ∧ q.store.1.entries = shut.store.1.entries ∧
      q.step store (.submit [record "4"]) = ⟨.submitted (.error .stopped), q, {}⟩ ∧
      (q.step store (.log (record "5"))).answer = .logged (.refused .stopped) ∧
      (q.step store (.log (record "911"))).answer = .logged (.done .suppressed) ∧
      q.writer.queue = [] ∧ q.writer.stats = ⟨3, 2, 1, 0⟩ ∧
      (q.store.2.map Prod.fst).Perm [record "1", record "2", record "3"]) ∧
    q'.writer.stats = killed.writer.stats ∧ q'.store.1.entries = killed.store.1.entries ∧
      q'.store.1.records = [record "1"] ∧
      q'.step store (.submit [record "4"]) = ⟨.submitted (.error .stopped), q', {}⟩ := by
  intro record store start p after shut killed q q'
  have hstart : start? start.dispatcher 2 2 start.store =
      some ⟨(), start, .of [.writerStarted 2 2] ++ (register start.dispatcher []).report⟩ := rfl
  have hbefore : Reaches store start _ _ p := reaches_run _ _ (by decide)
  have hshut : Answers store p .shutdown shut := answers_step _ _ _ (by decide)
  have hkill : Answers store p .kill killed := answers_step _ _ _ (by decide)
  have hafter : Reaches store shut after _ q := reaches_run _ _ (by decide)
  have hafter' : Reaches store killed after _ q' := reaches_run _ _ (by decide)
  obtain ⟨⟨hstats, hkept⟩, hsubmit, hlog, -, hsettled⟩ :=
    stopped_for_good hstart hbefore (.inl rfl) hshut hafter
  obtain ⟨⟨hstats', hkept'⟩, hsubmit', -⟩ :=
    stopped_for_good hstart hbefore (.inr rfl) hkill hafter'
  obtain ⟨hqueue, -, hgiven⟩ := hsettled rfl (by decide)
  exact ⟨⟨hstats, hkept (fun s => s.1.entries) (fun _ _ => rfl), hsubmit _ (by decide),
    hlog (record "5"), hlog (record "911"), hqueue, by decide, hgiven _ (Store.attending_notes _)⟩,
    hstats', hkept' (fun s => s.1.entries) (fun _ _ => rfl), by decide, hsubmit' _ (by decide)⟩

end Pipeline
end CallHistory
