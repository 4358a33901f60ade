import CallHistory.Proofs.Pipeline.Contents
import CallHistory.Proofs.Pipeline.Offers
import Mathlib.Data.List.Basic

/-! # Two policies, side by side

The same requests are made of two pipelines with one worker each, of which one allows emergency calls
and the other does not. As long as nothing finds the queue of the first one full, the second one does
the same with all that is not of an emergency call, and nothing with the rest: its queue and its
store are what is left of the first one's.
-/

namespace CallHistory

namespace Writer

/-- Two writers with their stores, of which the second has only what passes of what the first has
queued, and of what the first has stored since its store was `m`. -/
structure Sifted (passes : Record → Bool) (m : Memory) (x y : Writer × Memory) : Prop where
  phase : y.1.phase = x.1.phase
  capacity : y.1.capacity = x.1.capacity
  locked : y.2.locked = x.2.locked
  queued : ∃ records : List Record,
    x.1.queue = records.map ([·]) ∧ y.1.queue = (records.filter passes).map ([·])
  stored : ∃ records : List Record,
    x.2.records = m.records ++ records ∧ y.2.records = m.records ++ records.filter passes

variable {passes : Record → Bool} {m : Memory} {faults : Faults} {x y : Writer × Memory}
  {w v : Writer} {s t : Memory} {r : Record}

theorem sifted_new (capacity : Nat) :
    Sifted passes m ({ capacity, workers := 1 }, m) ({ capacity, workers := 1 }, m) where
  phase := rfl
  capacity := rfl
  locked := rfl
  queued := ⟨[], rfl, rfl⟩
  stored := ⟨[], (List.append_nil _).symm, (List.append_nil _).symm⟩

/-- One worker writes a queue of single records behind a memory store: the lock stays, and what is
kept of a record is up to the record. -/
theorem work_singles (faults : Faults) (records : List Record) (stats : WriterStats) (s : Memory) :
    let done := (work (Memory.store.behind faults) (records.map ([·])) (stats, s)).state.2
    done.locked = s.locked ∧
      done.records = s.records ++ records.filter fun r => !s.locked && faults.spares r := by
  have hflatten : (records.map ([·])).flatten = records := List.flatMap_singleton' records
  have hwork := (Memory.behind_decides faults s.locked).work (Memory.behind_appends faults)
    (records.map ([·])) stats (s := s) rfl
  rw [hflatten] at hwork
  exact hwork

theorem Sifted.drain (h : Sifted passes m x y) :
    let store := Memory.store.behind faults
    Sifted passes m (drain store x).state (drain store y).state := by
  intro store
  by_cases hrunning : x.1.phase = .running
  · obtain ⟨records, hx, hy⟩ := h.queued
    obtain ⟨past, hpast, hpast'⟩ := h.stored
    rw [drain_running store hrunning, drain_running store (h.phase.trans hrunning), hx, hy]
    obtain ⟨hlocked, hstored⟩ := work_singles faults records x.1.stats x.2
    obtain ⟨hlocked', hstored'⟩ := work_singles faults (records.filter passes) y.1.stats y.2
    refine ⟨h.phase, h.capacity, ?_, ⟨[], rfl, rfl⟩, ?_⟩
    · rw [hlocked, hlocked', h.locked]
    · refine ⟨past ++ records.filter fun r => !x.2.locked && faults.spares r, ?_, ?_⟩
      · rw [hstored, hpast, List.append_assoc]
      · rw [hstored', hpast', h.locked, List.filter_append, List.append_assoc, List.filter_comm]
  · rw [drain_idle store hrunning, drain_idle store (by rw [h.phase]; exact hrunning)]
    exact h

theorem Sifted.close (h : Sifted passes m x y) :
    Sifted passes m (x.1.close, x.2) (y.1.close, y.2) where
  phase := congrArg (WriterPhase.after .shutdown) h.phase
  capacity := h.capacity
  locked := h.locked
  queued := h.queued
  stored := h.stored

theorem Sifted.kill (h : Sifted passes m (w, s) (v, t)) :
    Sifted passes m (w.kill, s) (v.kill, t) := by
  have hphase : v.phase = w.phase := h.phase
  unfold Writer.kill
  rw [hphase]
  split
  · exact ⟨rfl, h.capacity, h.locked, h.queued, h.stored⟩
  · exact h

theorem Sifted.obey (h : Sifted passes m x y) {order : Order}
    (hsend : ∀ batch, order ≠ .send batch) :
    let store := Memory.store.behind faults
    Sifted passes m (Writer.obey store order x) (Writer.obey store order y) := by
  rcases x with ⟨w, s⟩
  rcases y with ⟨v, t⟩
  cases order with
  | send batch => exact absurd rfl (hsend batch)
  | lock locked => exact ⟨h.phase, h.capacity, rfl, h.queued, h.stored⟩
  | drain => exact h.drain
  | shutdown => exact h.drain.close
  | kill => exact h.kill

theorem submit_single (hfull : (w.submit [r]).answer ≠ .error (.queueFull 1)) :
    (w.phase ≠ .running ∧ w.submit [r] = ⟨.error .stopped, w, {}⟩) ∨
      (w.phase = .running ∧ w.queue.length < w.capacity ∧ (w.submit [r]).answer = .ok () ∧
        (w.submit [r]).state =
          { w with
            queue := w.queue ++ [[r]]
            stats := { w.stats with submitted := w.stats.submitted + .ofNat [r].length } }) := by
  rcases submit_cases w [r] with ⟨hnil, -⟩ | hidle | hqueued | ⟨-, -, hanswer, -⟩
  · cases hnil
  · exact .inl hidle
  · exact .inr hqueued
  · exact absurd hanswer hfull

/-- The queue of the second writer is no longer than that of the first, so where there is room in the
first there is room in the second. -/
theorem Sifted.room (h : Sifted passes m (w, s) (v, t))
    (hfull : (w.submit [r]).answer ≠ .error (.queueFull 1)) :
    (v.submit [r]).answer ≠ .error (.queueFull 1) := by
  intro hfull'
  rcases submit_cases v [r] with ⟨hnil, -⟩ | ⟨-, hidle⟩ | ⟨-, -, hanswer, -⟩ | ⟨hrunning, hlength, -⟩
  · cases hnil
  · rw [hidle] at hfull'
    cases hfull'
  · rw [hanswer] at hfull'
    cases hfull'
  · have hphase : v.phase = w.phase := h.phase
    have hcapacity : v.capacity = w.capacity := h.capacity
    rcases submit_single hfull with ⟨hidle, -⟩ | ⟨-, hroom, -⟩
    · exact hidle (hphase.symm.trans hrunning)
    · obtain ⟨records, hw, hv⟩ := h.queued
      have hfilter := List.length_filter_le passes records
      simp only at hw hv
      rw [hw, List.length_map] at hroom
      rw [hv, List.length_map, hcapacity] at hlength
      omega

/-- A record that passes is handed to both writers, and both answer the same. -/
theorem Sifted.submit (h : Sifted passes m (w, s) (v, t)) (hpasses : passes r = true)
    (hfull : (w.submit [r]).answer ≠ .error (.queueFull 1)) :
    (v.submit [r]).answer = (w.submit [r]).answer ∧
      Sifted passes m ((w.submit [r]).state, s) ((v.submit [r]).state, t) := by
  have hphase : v.phase = w.phase := h.phase
  rcases submit_single hfull with ⟨hidle, hw⟩ | ⟨hrunning, -, hanswer, hstate⟩ <;>
    rcases submit_single (h.room hfull) with ⟨hidle', hv⟩ | ⟨hrunning', -, hanswer', hstate'⟩
  · rw [hw, hv]
    exact ⟨rfl, h⟩
  · exact absurd (hphase.symm.trans hrunning') hidle
  · exact absurd (hphase.trans hrunning) hidle'
  · rw [hanswer, hanswer', hstate, hstate']
    obtain ⟨records, hqueue, hqueue'⟩ := h.queued
    simp only at hqueue hqueue'
    refine ⟨rfl, h.phase, h.capacity, h.locked, ⟨records ++ [r], ?_, ?_⟩, h.stored⟩
    · simp [hqueue]
    · simp [hqueue', hpasses]

theorem Sifted.submit_first (h : Sifted passes m (w, s) (v, t)) (hpasses : passes r = false)
    (hfull : (w.submit [r]).answer ≠ .error (.queueFull 1)) :
    Sifted passes m ((w.submit [r]).state, s) (v, t) := by
  rcases submit_single hfull with ⟨-, hw⟩ | ⟨-, -, -, hstate⟩
  · rw [hw]
    exact h
  · rw [hstate]
    obtain ⟨records, hqueue, hqueue'⟩ := h.queued
    simp only at hqueue hqueue'
    refine ⟨h.phase, h.capacity, h.locked, ⟨records ++ [r], ?_, ?_⟩, h.stored⟩
    · simp [hqueue]
    · simp [hqueue', hpasses]

end Writer

namespace Pipeline

/-- What becomes of an offer, and of the answer to it, where emergency calls are forbidden. -/
def forbid (e : Phone.EmergencyNumbers) (offer : Record × Attempt Dispatch) :
    Record × Attempt Dispatch :=
  (offer.1, if offer.1.number.any e.recognizes then .done .suppressed else offer.2)

section Answers

variable {σ : Type} {e : Phone.EmergencyNumbers} {p : Pipeline σ}

theorem logged_of_allowed (h : p.dispatcher = ⟨⟨true⟩, e⟩) (r : Record) :
    p.dispatcher.batch? r = some [r] ∧
      (p.logged r).answer =
        (Attempt.ofExcept (p.writer.submit [r]).answer).map fun _ => .submitted := by
  have hpermits : p.dispatcher.policy.permits (p.dispatcher.isEmergency r) = true := by
    rw [h]
    exact Bool.or_true _
  unfold logged Dispatcher.log Dispatcher.batch?
  rw [if_pos hpermits, if_pos hpermits]
  exact ⟨rfl, rfl⟩

theorem logged_of_forbidden (h : p.dispatcher = ⟨⟨false⟩, e⟩) (r : Record) :
    (r.number.any e.recognizes = true ∧ p.dispatcher.batch? r = none ∧
      (p.logged r).answer = .done .suppressed) ∨
    (r.number.any e.recognizes = false ∧ p.dispatcher.batch? r = some [r] ∧
      (p.logged r).answer =
        (Attempt.ofExcept (p.writer.submit [r]).answer).map fun _ => .submitted) := by
  have hpermits : p.dispatcher.policy.permits (p.dispatcher.isEmergency r) =
      !r.number.any e.recognizes := by
    rw [h]
    exact Bool.or_false _
  unfold logged Dispatcher.log Dispatcher.batch?
  rw [hpermits]
  cases r.number.any e.recognizes with
  | true => exact .inl ⟨rfl, rfl, rfl⟩
  | false => exact .inr ⟨rfl, rfl, rfl⟩

theorem not_suppressed_of_allowed (store : Store σ) (requests : List Request)
    (h : p.dispatcher = ⟨⟨true⟩, e⟩) :
    ∀ o ∈ offers store requests p, o.2 ≠ .done .suppressed := by
  induction requests generalizing p with
  | nil => exact List.forall_mem_nil _
  | cons request rest ih =>
    have hrest := ih ((step_state store p request).1.trans h)
    refine List.forall_mem_append.mpr ⟨fun o ho => ?_, hrest⟩
    obtain ⟨r, -, rfl⟩ := Option.map_eq_some_iff.mp (Option.mem_toList.mp ho)
    rw [(logged_of_allowed h r).2]
    exact submitted_ne_suppressed _

/-- Forbidding refuses nothing: what is refused after it was refused before. -/
theorem refused_of_forbid {o o' : Record × Attempt Dispatch} {cause : SubmitError}
    (h : forbid e o = o') (hrefused : o'.2 = .refused cause) : o = o' := by
  subst h
  unfold forbid at hrefused ⊢
  split
  · rename_i hemergency
    rw [if_pos hemergency] at hrefused
    cases hrefused
  · rfl

theorem countP_suppressed_map_forbid (e : Phone.EmergencyNumbers)
    {offers : List (Record × Attempt Dispatch)} (h : ∀ o ∈ offers, o.2 ≠ .done .suppressed) :
    (offers.map (forbid e)).countP (·.2 = .done .suppressed) =
      offers.countP (·.1.number.any e.recognizes) := by
  rw [List.countP_map]
  apply List.countP_congr
  intro o ho
  simp [forbid, h o ho]

end Answers

/-- A pipeline that allows emergency calls beside one that forbids them: the calls are the same, and of
all that the first has queued and stored the second has what is not of an emergency call. -/
structure Sifted (e : Phone.EmergencyNumbers) (m : Memory) (p q : Pipeline Memory) : Prop where
  first : p.dispatcher = ⟨⟨true⟩, e⟩
  second : q.dispatcher = ⟨⟨false⟩, e⟩
  calls : q.calls = p.calls
  writers : Writer.Sifted (fun r => !r.number.any e.recognizes) m (p.writer, p.store)
    (q.writer, q.store)

variable {e : Phone.EmergencyNumbers} {m : Memory} {p q : Pipeline Memory}

theorem Sifted.of_obeyed (h : Sifted e m p q) {request : Request} {store : Store Memory}
    (hwriters : Writer.Sifted (fun r => !r.number.any e.recognizes) m
      (obeyed store (p.writer, p.store) (p.order? request))
      (obeyed store (q.writer, q.store) (q.order? request))) :
    Sifted e m (p.step store request).state (q.step store request).state := by
  obtain ⟨hfirst, hcalls, hwriter⟩ := step_state store p request
  obtain ⟨hsecond, hcalls', hwriter'⟩ := step_state store q request
  refine ⟨hfirst.trans h.first, hsecond.trans h.second, ?_, ?_⟩
  · rw [hcalls, hcalls', h.calls]
  · rw [hwriter, hwriter']
    exact hwriters

/-- What one request brings to the log of the second pipeline is what it brings to that of the first,
and unless it is of an emergency call the answer is the same. -/
theorem Sifted.step (h : Sifted e m p q) (faults : Faults) {request : Request}
    (hsubmit : ∀ batch, request ≠ .submit batch)
    (hroom : ∀ r n, p.offer? request = some r → (p.logged r).answer ≠ .refused (.queueFull n)) :
    let store := Memory.store.behind faults
    Sifted e m (p.step store request).state (q.step store request).state ∧
      (q.offer? request).map (fun r => (r, (q.logged r).answer)) =
        ((p.offer? request).map fun r => (r, (p.logged r).answer)).map (forbid e) := by
  intro store
  have hoffer := offer?_of_calls h.calls request
  cases hp : p.offer? request with
  | none =>
    refine ⟨h.of_obeyed ?_, by rw [hoffer, hp]; rfl⟩
    rw [order?_eq, order?_eq, hoffer, hp]
    cases hdirect : direct? request with
    | none => exact h.writers
    | some order => exact h.writers.obey fun batch => direct?_ne_send hdirect (hsubmit batch)
  | some r =>
    have hdirect := direct?_of_offer? hp
    obtain ⟨hbatch, hanswer⟩ := logged_of_allowed h.first r
    have hfull : (p.writer.submit [r]).answer ≠ .error (.queueFull 1) := by
      intro hfull
      apply hroom r 1 hp
      rw [hanswer, hfull]
      rfl
    rcases logged_of_forbidden h.second r with ⟨hemergency, hbatch', hanswer'⟩ |
      ⟨hordinary, hbatch', hanswer'⟩
    · refine ⟨h.of_obeyed ?_, ?_⟩
      · rw [order?_eq, order?_eq, hoffer, hp, hdirect, Option.bind_some, Option.bind_some, hbatch,
          hbatch']
        exact h.writers.submit_first (by simp [hemergency]) hfull
      · rw [hoffer, hp]
        simp [forbid, hemergency, hanswer']
    · obtain ⟨hsame, hwriters⟩ := h.writers.submit (r := r) (by simp [hordinary]) hfull
      refine ⟨h.of_obeyed ?_, ?_⟩
      · rw [order?_eq, order?_eq, hoffer, hp, hdirect, Option.bind_some, Option.bind_some, hbatch,
          hbatch']
        exact hwriters
      · rw [hoffer, hp]
        simp [forbid, hordinary, hanswer', hanswer, hsame]

theorem Sifted.run (h : Sifted e m p q) (faults : Faults) {requests : List Request}
    (hsubmit : ∀ batch, .submit batch ∉ requests) :
    let store := Memory.store.behind faults
    (∀ r n, (r, .refused (.queueFull n)) ∉ offers store requests p) →
      Sifted e m (Pipeline.run store requests p).state (Pipeline.run store requests q).state ∧
        offers store requests q = (offers store requests p).map (forbid e) := by
  intro store hroom
  induction requests generalizing p q with
  | nil => exact ⟨h, rfl⟩
  | cons request rest ih =>
    simp only [offers, List.mem_append, not_or] at hroom
    have hrequest (batch : List Record) : request ≠ .submit batch := by
      rintro rfl
      exact hsubmit batch List.mem_cons_self
    obtain ⟨hnext, hoffer⟩ := h.step faults hrequest
      (fun r n hr hfull => (hroom r n).1 (by simp [hr, hfull]))
    obtain ⟨hlater, hoffers⟩ := ih hnext (fun batch hmem => hsubmit batch (List.mem_cons_of_mem _ hmem))
      (fun r n => (hroom r n).2)
    refine ⟨hlater, ?_⟩
    rw [offers, offers, List.map_append, hoffer, Option.toList_map, hoffers]

/-- The same is asked of two pipelines with one worker each and a memory store behind the same faults,
of which one allows emergency calls and the other does not, and nothing is handed to the writers
themselves. If no record that is brought to the log of the first one finds the queue full, then none
finds it full in the second one; the second one stores what the first one does, in the same order,
less what is of emergency calls; and it suppresses, and counts as suppressed, as many records as were
of emergency calls among those that were brought to the log of the first one. No schedule comes to
anything else. -/
theorem forbidding_only_removes_emergencies (e : Phone.EmergencyNumbers) {workers : Nat}
    (hworkers : workers ≤ 1) (capacity : Nat) (faults : Faults) (m : Memory)
    {started : Bool → Step (Pipeline Memory) Unit}
    (hstart : ∀ allow, start? ⟨⟨allow⟩, e⟩ workers capacity m = some (started allow))
    {requests : List Request} (hsubmit : ∀ batch, .submit batch ∉ requests)
    (hroom : ∀ r n, (r, .refused (.queueFull n)) ∉
      offers (Memory.store.behind faults) requests (started true).state) :
    let store := Memory.store.behind faults
    let offered allow := offers store requests (started allow).state
    let ran allow := run store requests (started allow).state
    let emergency (r : Record) := r.number.any e.recognizes
    (∀ r n, (r, .refused (.queueFull n)) ∉ offered false) ∧
      (∃ stored, (ran true).state.store.records = m.records ++ stored ∧
        (ran false).state.store.records = m.records ++ stored.filter (!emergency ·)) ∧
      (offered false).countP (·.2 = .done .suppressed) = (offered true).countP (emergency ·.1) ∧
      (ran false).report.counted.suppressed = .ofNat ((offered true).countP (emergency ·.1)) ∧
      ∀ allow trace q, Reaches store (started allow).state requests trace q →
        q = (ran allow).state := by
  intro store offered ran emergency
  have hone : max workers 1 = 1 := by omega
  have hstarted (allow : Bool) := start?_spec (hstart allow)
  rw [hone] at hstarted
  have hsifted : Sifted e m (started true).state (started false).state := by
    rw [hstarted, hstarted]
    exact ⟨rfl, rfl, rfl, Writer.sifted_new _⟩
  obtain ⟨hran, hoffers⟩ := hsifted.run faults hsubmit hroom
  change offered false = (offered true).map (forbid e) at hoffers
  have hsuppressed : (offered false).countP (·.2 = .done .suppressed) =
      (offered true).countP (emergency ·.1) := by
    rw [hoffers]
    exact countP_suppressed_map_forbid e (not_suppressed_of_allowed store requests hsifted.first)
  refine ⟨fun r n hfull => ?_, hran.writers.stored, hsuppressed, ?_, fun allow trace q h => ?_⟩
  · rw [hoffers] at hfull
    obtain ⟨o, ho, hforbid⟩ := List.mem_map.mp hfull
    rw [refused_of_forbid hforbid rfl] at ho
    exact hroom r n ho
  · rw [← hsuppressed]
    exact run_suppressed (Memory.behind_countsNothing faults) requests _
  · exact (h.eq_run (by rw [hstarted])).2

/-- Two records of emergency calls, one of them of a call that has been followed, one record with a
fault, one that finds the store locked, and one that finds the writer stopped. -/
theorem forbidding_only_removes_emergencies_lock_and_stop :
    let record (number : String) : Record := .make none (some number) .allowed .incoming 0 0
    let e : Phone.EmergencyNumbers := .ofList ["911"]
    let faults : Faults := [("2", .crash)]
    let start (allow : Bool) : Pipeline Memory :=
      { dispatcher := ⟨⟨allow⟩, e⟩
        writer := { capacity := 2, workers := 1 }
        store := { supply := ⟨Uuid.ofNat, fun _ => default, 0⟩ } }
    let requests : List Request :=
      [.log (record "9-11"), .log (record "2"), .drain, .lock true, .log (record "5"), .drain,
        .lock false, .add (.start default true (some (.tel "911")) ⟨0, by decide, by decide⟩),
        .set 0 .aborted ⟨1, by decide, by decide⟩, .log (record "7"), .shutdown,
        .log (record "8")]
    let store := Memory.store.behind faults
    let ran allow := run store requests (start allow)
    (ran false).state.store.records =
        (ran true).state.store.records.filter (fun r => !r.number.any e.recognizes) ∧
      (ran false).report.counted.suppressed = 2 ∧
      (ran true).state.store.records.map Record.number = [some "9-11", some "911", some "7"] ∧
      (ran false).state.store.records.map Record.number = [some "7"] := by
  intro record e faults start requests store ran
  have hstart (allow : Bool) : start? ⟨⟨allow⟩, e⟩ 1 2 (start true).store =
      some ⟨(), start allow,
        .of [.writerStarted 1 2] ++ (register (start allow).dispatcher []).report⟩ := rfl
  have hanswers : (offers store requests (start true)).map Prod.snd =
      [.done .submitted, .done .submitted, .done .submitted, .done .submitted, .done .submitted,
        .refused .stopped] := by decide
  have hroom (r : Record) (n : Nat) :
      (r, .refused (.queueFull n)) ∉ offers store requests (start true) := by
    intro hmem
    have hanswer := List.mem_map_of_mem (f := Prod.snd) hmem
    rw [hanswers] at hanswer
    simp at hanswer
  obtain ⟨-, ⟨stored, hfirst, hsecond⟩, -, hcount, -⟩ := forbidding_only_removes_emergencies e
    (Nat.le_refl 1) 2 faults (start true).store hstart (fun batch => by simp [requests]) hroom
  refine ⟨?_, ?_, by decide, by decide⟩
  · rw [hsecond, hfirst]
    rfl
  · rw [hcount]
    decide

end Pipeline
end CallHistory
