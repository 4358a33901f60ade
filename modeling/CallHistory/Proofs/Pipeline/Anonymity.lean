import CallHistory.Proofs.Pipeline.Outlines
import CallHistory.Proofs.Pipeline.Rotas
import CallHistory.Proofs.Pool.Discretion

/-! # What reports tell of numbers

Two pipelines in front of a discreet store are asked the same, but for the numbers. As long as the
outlines of the requests agree, nothing that is reported tells the one from the other. This is kept up
by a likeness of the pipelines, part by part: the writers differ only in the records that are queued,
and the fates of these agree.
-/

namespace CallHistory

variable {σ φ ψ : Type} {store : Store σ} {fate : Record → φ} {seen : σ → ψ}

namespace Writer

/-- Writers that differ in no more than the records that are queued, and not in the fates of these. -/
def Alike (fate : Record → φ) (w w' : Writer) : Prop :=
  ∃ queue, w' = { w with queue } ∧ w.queue.map (List.map fate) = queue.map (List.map fate)

namespace Alike

variable {w w' : Writer}

theorem refl (w : Writer) : Alike fate w w := ⟨w.queue, rfl, rfl⟩

theorem submit (h : Alike fate w w') {batch batch' : List Record}
    (hfates : batch.map fate = batch'.map fate) :
    (w.submit batch).answer = (w'.submit batch').answer ∧
      Alike fate (w.submit batch).state (w'.submit batch').state ∧
      (w.submit batch).report.Alike (w'.submit batch').report := by
  obtain ⟨queue, rfl, hqueue⟩ := h
  have hcount : batch.length = batch'.length := by simpa using congrArg List.length hfates
  have hbatches : w.queue.length = queue.length := by simpa using congrArg List.length hqueue
  have hempty : batch.isEmpty = batch'.isEmpty := by
    rw [← List.isEmpty_map, hfates, List.isEmpty_map]
  unfold Writer.submit
  rw [hempty, hcount, hbatches]
  split
  · exact ⟨rfl, ⟨queue, rfl, hqueue⟩, .refl _⟩
  · split
    · exact ⟨rfl, ⟨queue, rfl, hqueue⟩, .refl _⟩
    · split
      · refine ⟨rfl, ⟨queue ++ [batch'], rfl, ?_⟩, .refl _⟩
        simp [hqueue, hfates]
      · exact ⟨rfl, ⟨queue, rfl, hqueue⟩, .refl _⟩

theorem kill (h : Alike fate w w') : Alike fate w.kill w'.kill := by
  obtain ⟨queue, rfl, hqueue⟩ := h
  unfold Writer.kill
  split
  · exact ⟨queue, rfl, hqueue⟩
  · exact ⟨queue, rfl, hqueue⟩

theorem drainBy (hstore : store.Discreet fate seen) (h : Alike fate w w') {s s' : σ}
    (hseen : seen s = seen s') (rota : Rota) :
    let drained := Writer.drainBy store rota (w, s)
    let drained' := Writer.drainBy store rota (w', s')
    Alike fate drained.state.1 drained'.state.1 ∧ seen drained.state.2 = seen drained'.state.2 ∧
      drained.report.Alike drained'.report := by
  obtain ⟨queue, rfl, hqueue⟩ := h
  by_cases hrunning : w.phase = .running
  · have hlengths : w.queue.map List.length = queue.map List.length := by
      have h := congrArg (List.map List.length) hqueue
      simpa [List.map_map, Function.comp_def] using h
    have hpools : Pool.Alike fate seen (.start w.workers w.queue w.stats s)
        (.start w.workers queue w.stats s') := ⟨hqueue, rfl, rfl, hseen⟩
    obtain ⟨hdone, hreport⟩ := hpools.run hstore (rota (w.queue.map List.length))
    simp only [Writer.drainBy, hrunning, if_true, ← hlengths]
    refine ⟨⟨_, ?_, hdone.queue⟩, hdone.store, .append (.refl _) hreport⟩
    rw [hdone.stats]
  · simp only [Writer.drainBy, hrunning, if_false]
    exact ⟨⟨queue, rfl, hqueue⟩, hseen, .refl _⟩

theorem shutdownBy (hstore : store.Discreet fate seen) (h : Alike fate w w') {s s' : σ}
    (hseen : seen s = seen s') (rota : Rota) :
    let stopped := Writer.shutdownBy store rota (w, s)
    let stopped' := Writer.shutdownBy store rota (w', s')
    Alike fate stopped.state.1 stopped'.state.1 ∧ seen stopped.state.2 = seen stopped'.state.2 ∧
      stopped.report.Alike stopped'.report := by
  obtain ⟨⟨queue, hwriter, hqueue⟩, hstate, hreport⟩ := h.drainBy hstore hseen rota
  unfold Writer.shutdownBy
  simp only [hwriter]
  exact ⟨⟨queue, rfl, hqueue⟩, hstate, hreport.append (.refl _)⟩

end Alike
end Writer

namespace Dispatcher

variable {w w' : Writer}

theorem log_alike (d : Dispatcher) (h : Writer.Alike fate w w') {r r' : Record}
    (hface : r.faceless = r'.faceless) (hlook : d.look fate r = d.look fate r') :
    let logged := d.log Writer.submitter r w
    let logged' := d.log Writer.submitter r' w'
    logged.answer = logged'.answer ∧ Writer.Alike fate logged.state logged'.state ∧
      logged.report.Alike logged'.report := by
  obtain ⟨hfingerprint, hemergency, hfate⟩ := Look.mk.inj hlook
  obtain ⟨-, -, hpresentation, hkind, hstart, hduration⟩ := Record.mk.inj hface
  have hoffered := Report.Event.masked_recordOffered hfingerprint hpresentation hkind hstart hduration
  have hfates : [r].map fate = [r'].map fate := by simp [hfate]
  obtain ⟨hanswer, hstate, hreport⟩ := h.submit hfates
  unfold log
  rw [hemergency]
  split
  · refine ⟨?_, hstate, .append (.of_event hoffered) hreport⟩
    simp only [Writer.submitter, hanswer]
  · exact ⟨rfl, h, .refl _⟩

theorem handle_alike (d : Dispatcher) (h : Writer.Alike fate w w') {t t' : Transition}
    (hface : t.faceless = t'.faceless)
    (hlook : (recordOf? t).map (d.look fate) = (recordOf? t').map (d.look fate)) :
    let handled := d.handle Writer.submitter t w
    let handled' := d.handle Writer.submitter t' w'
    handled.answer = handled'.answer ∧ Writer.Alike fate handled.state handled'.state ∧
      handled.report.Alike handled'.report := by
  have hfaces : (recordOf? t).map Record.faceless = (recordOf? t').map Record.faceless := by
    rw [recordOf?_faceless, recordOf?_faceless, hface]
  cases hrecord : recordOf? t with
  | none =>
    rw [hrecord] at hlook
    have hrecord' : recordOf? t' = none := Option.map_eq_none_iff.mp hlook.symm
    rw [handle_of_recordOf?_eq_none d _ hrecord, handle_of_recordOf?_eq_none d _ hrecord']
    exact ⟨rfl, h, .refl _⟩
  | some r =>
    rw [hrecord] at hlook hfaces
    obtain ⟨r', hrecord', hr⟩ := Option.map_eq_some_iff.mp hlook.symm
    rw [hrecord'] at hfaces
    obtain ⟨hanswer, hstate, hreport⟩ := d.log_alike h (Option.some.inj hfaces) hr.symm
    have hchosen := Report.Event.masked_numberChosen (congrArg Look.fingerprint hr.symm)
    rw [handle_of_recordOf? d _ hrecord, handle_of_recordOf? d _ hrecord']
    exact ⟨congrArg (Attempt.map some) hanswer, hstate, .append (.of_event hchosen) hreport⟩

theorem absorbed_alike {t t' : Transition} (hface : t.faceless = t'.faceless)
    (answer : Attempt (Option Dispatch)) :
    (Report.of (absorbed t answer)).Alike (.of (absorbed t' answer)) := by
  cases answer with
  | done reply => exact .refl _
  | refused cause => exact .refl _
  | crashed =>
    obtain ⟨hcall, hold, hnew⟩ := Transition.mk.inj hface
    exact .of_event (Report.Event.masked_crashed (CallInfo.mk.inj hcall).1 hold hnew)

theorem listen_alike (d : Dispatcher) (h : Writer.Alike fate w w') {t t' : Transition}
    (hface : t.faceless = t'.faceless)
    (hlook : (recordOf? t).map (d.look fate) = (recordOf? t').map (d.look fate)) :
    let told := d.listen Writer.submitter t w
    let told' := d.listen Writer.submitter t' w'
    Writer.Alike fate told.state told'.state ∧ told.report.Alike told'.report := by
  obtain ⟨hanswer, hstate, hreport⟩ := d.handle_alike h hface hlook
  unfold listen
  simp only [hanswer]
  exact ⟨hstate, hreport.append (absorbed_alike hface _)⟩

end Dispatcher

namespace Pipeline

/-- Pipelines with one dispatcher and with the same calls, but for handles and names, in which the
writers are alike and the same is seen of the stores. -/
structure Alike (fate : Record → φ) (seen : σ → ψ) (p p' : Pipeline σ) : Prop where
  dispatcher : p.dispatcher = p'.dispatcher
  calls : p.calls.map Call.faceless = p'.calls.map Call.faceless
  writer : Writer.Alike fate p.writer p'.writer
  store : seen p.store = seen p'.store

/-- What comes after a request has the outlines that it has by the calls alone. -/
theorem outlines_stepBy (store : Store σ) (rota : Rota) (p : Pipeline σ) (request : Request)
    (rest : List Request) :
    outlines fate rest (p.stepBy store rota request).state =
      outlines fate rest { p with calls := callsAfter p.calls request } := by
  obtain ⟨hdispatcher, hcalls, -⟩ := step_state store p request
  cases request with
  | drain => exact outlines_congr fate rest rfl rfl
  | shutdown => exact outlines_congr fate rest rfl rfl
  | _ => exact outlines_congr fate rest hdispatcher hcalls

namespace Alike

variable {p p' : Pipeline σ}

theorem set (store : Store σ) (h : Alike fate seen p p') {index : Nat} {target : CallState}
    {now : Instant}
    (hlook : (p.offer? (.set index target now)).map (p.dispatcher.look fate) =
      (p'.offer? (.set index target now)).map (p'.dispatcher.look fate)) :
    let set := p.step store (.set index target now)
    let set' := p'.step store (.set index target now)
    Alike fate seen set.state set'.state ∧ set.report.Alike set'.report := by
  rcases p with ⟨d, calls, w, s⟩
  rcases p' with ⟨d', calls', w', s'⟩
  obtain ⟨rfl, hcalls, hwriter, hseen⟩ := h
  have hfaces : calls[index]?.map Call.faceless = calls'[index]?.map Call.faceless := by
    rw [← List.getElem?_map, hcalls, List.getElem?_map]
  cases hcall : calls[index]? with
  | none =>
    rw [hcall] at hfaces
    have hcall' : calls'[index]? = none := Option.map_eq_none_iff.mp hfaces.symm
    simp only [step, hcall, hcall']
    exact ⟨⟨rfl, hcalls, hwriter, hseen⟩, .refl _⟩
  | some c =>
    rw [hcall] at hfaces
    obtain ⟨c', hcall', hface⟩ := Option.map_eq_some_iff.mp hfaces.symm
    obtain ⟨-, -, -, hstate, -, -⟩ := Call.mk.inj hface
    have hafter {moved moved' : Call} (h : moved.faceless = moved'.faceless) :
        (calls.set index moved).map Call.faceless = (calls'.set index moved').map Call.faceless := by
      rw [List.map_set, List.map_set, hcalls, h]
    simp only [step, hcall, hcall', Dispatcher.react_eq_listening]
    cases hmove : c.state.canMoveTo target with
    | false =>
      rw [Call.setState_refused _ hmove, Call.setState_refused _ (by rw [hstate, hmove])]
      exact ⟨⟨rfl, hafter hface.symm, hwriter, hseen⟩, .refl _⟩
    | true =>
      have hmove' : c'.state.canMoveTo target = true := by rw [hstate, hmove]
      rw [offer?_set hcall hmove, offer?_set hcall' hmove'] at hlook
      have htransition := Call.transition_congr hface.symm target now
      obtain ⟨htold, hreport⟩ := d.listen_alike hwriter htransition hlook
      have hmoved : (Report.Event.callMoved c.id c.state target).masked =
          (Report.Event.callMoved c'.id c'.state target).masked := by
        rw [hstate]
        rfl
      rw [Call.setState_listening_accepted _ _ hmove, Call.setState_listening_accepted _ _ hmove']
      exact ⟨⟨rfl, hafter (Call.moved_congr hface.symm target now), htold, hseen⟩,
        .append (.of_event hmoved) hreport⟩

/-- Pipelines that are alike stay so under requests with one outline, and report them alike. -/
theorem stepBy (hstore : store.Discreet fate seen) (h : Alike fate seen p p') (rota : Rota)
    {request request' : Request} (houtline : p.outline fate request = p'.outline fate request') :
    let answered := p.stepBy store rota request
    let answered' := p'.stepBy store rota request'
    Alike fate seen answered.state answered'.state ∧ answered.report.Alike answered'.report := by
  obtain ⟨hrequest, hlook, hhanded⟩ := Outline.mk.inj houtline
  rcases p with ⟨d, calls, w, s⟩
  rcases p' with ⟨d', calls', w', s'⟩
  have ⟨hdispatcher, hcalls, hwriter, hseen⟩ := h
  obtain rfl : d = d' := hdispatcher
  cases Request.twins_of_faceless hrequest with
  | add hcall =>
    refine ⟨⟨rfl, ?_, hwriter, hseen⟩, .refl _⟩
    change (calls ++ [_]).map Call.faceless = (calls' ++ [_]).map Call.faceless
    rw [List.map_append, List.map_append, hcalls, List.map_singleton, List.map_singleton, hcall]
  | set index target now => exact h.set store hlook
  | notify ht =>
    obtain ⟨htold, hreport⟩ := d.listen_alike hwriter ht hlook
    exact ⟨⟨rfl, hcalls, htold, hseen⟩, hreport⟩
  | handle ht =>
    obtain ⟨-, hhandled, hreport⟩ := d.handle_alike hwriter ht hlook
    exact ⟨⟨rfl, hcalls, hhandled, hseen⟩, hreport⟩
  | log hr =>
    obtain ⟨-, hlogged, hreport⟩ := d.log_alike hwriter hr (Option.some.inj hlook)
    exact ⟨⟨rfl, hcalls, hlogged, hseen⟩, hreport⟩
  | submit _ =>
    obtain ⟨-, hsent, hreport⟩ := hwriter.submit hhanded
    exact ⟨⟨rfl, hcalls, hsent, hseen⟩, hreport⟩
  | lock locked => exact ⟨⟨rfl, hcalls, hwriter, hstore.lock locked hseen⟩, .refl _⟩
  | drain =>
    obtain ⟨hdrained, hseen', hreport⟩ := hwriter.drainBy hstore hseen rota
    exact ⟨⟨rfl, hcalls, hdrained, hseen'⟩, hreport⟩
  | shutdown =>
    obtain ⟨hstopped, hseen', hreport⟩ := hwriter.shutdownBy hstore hseen rota
    exact ⟨⟨rfl, hcalls, hstopped, hseen'⟩, hreport⟩
  | kill => exact ⟨⟨rfl, hcalls, hwriter.kill, hseen⟩, .refl _⟩

theorem runBy (hstore : store.Discreet fate seen) (h : Alike fate seen p p') (rotas : List Rota)
    {requests requests' : List Request}
    (houtlines : outlines fate requests p = outlines fate requests' p') :
    let ran := Pipeline.runBy store rotas requests p
    let ran' := Pipeline.runBy store rotas requests' p'
    Alike fate seen ran.state ran'.state ∧ ran.report.Alike ran'.report := by
  induction requests generalizing requests' p p' rotas with
  | nil =>
    cases requests' with
    | nil => exact ⟨h, .refl _⟩
    | cons request' rest' => cases houtlines
  | cons request rest ih =>
    cases requests' with
    | nil => cases houtlines
    | cons request' rest' =>
      obtain ⟨houtline, hrest⟩ := List.cons.inj houtlines
      obtain ⟨hstep, hreport⟩ := h.stepBy hstore (rotas.headD .single) houtline
      rw [← outlines_stepBy, ← outlines_stepBy] at hrest
      obtain ⟨hstates, hreports⟩ := ih hstep rotas.tail hrest
      exact ⟨hstates, hreport.append hreports⟩

end Alike

theorem start?_alike {d : Dispatcher} {workers capacity : Nat} {s s' : σ} (hseen : seen s = seen s')
    {started started' : Step (Pipeline σ) Unit} (hstart : start? d workers capacity s = some started)
    (hstart' : start? d workers capacity s' = some started') :
    Alike fate seen started.state started'.state ∧ started.report.Alike started'.report := by
  obtain ⟨writer, hwriter, rfl⟩ := Option.map_eq_some_iff.mp hstart
  obtain ⟨writer', hwriter', rfl⟩ := Option.map_eq_some_iff.mp hstart'
  obtain rfl : writer = writer' := Option.some.inj (hwriter.symm.trans hwriter')
  exact ⟨⟨rfl, rfl, .refl _, hseen⟩, .refl _⟩

theorem workers_of_start? {d : Dispatcher} {workers capacity : Nat} {s : σ}
    {started : Step (Pipeline σ) Unit} (h : start? d workers capacity s = some started) :
    0 < started.state.writer.workers := by
  rw [start?_spec h]
  exact Nat.le_max_right workers 1

/-- What is let out of a pipeline: all lines of the report, with numbers hidden and names masked, what
was counted, and the counts of the writer. -/
def disclosed {α : Type} (x : Step (Pipeline σ) α) :
    List (String × String) × Counters × WriterStats :=
  (x.report.lines, x.report.counted, x.state.writer.stats)

theorem disclosed_congr {α : Type} {x x' : Step (Pipeline σ) α}
    (hstate : Alike fate seen x.state x'.state) (hreport : x.report.Alike x'.report) :
    disclosed x = disclosed x' := by
  obtain ⟨queue, hwriter, -⟩ := hstate.writer
  unfold disclosed
  rw [hreport.lines, hreport.counted, hwriter]

/-- Two pipelines over memory stores behind one table of faults are started the same way, and are
asked the same but for numbers, handles, contacts and the names of calls. Corresponding records that
are brought to the log both have a number or neither has, and agree in its fingerprint, in whether
it is an emergency number and in their faults; corresponding records that go to the writer directly
agree in their faults. Then the two report the same line by line, at every level, and count the
same, both in their reports and at their writers. This is so for the run of a pipeline, and for runs
in which the workers take turns by any rotas. -/
theorem numbers_stay_hidden (faults : Faults) {d : Dispatcher} {workers capacity : Nat}
    {m m' : Memory} (hsight : m.sight = m'.sight) {started started' : Step (Pipeline Memory) Unit}
    (hstart : start? d workers capacity m = some started)
    (hstart' : start? d workers capacity m' = some started') {requests requests' : List Request}
    (houtlines : outlines faults.find? requests started.state =
      outlines faults.find? requests' started'.state) :
    let store := Memory.store.behind faults
    disclosed started = disclosed started' ∧
      disclosed (run store requests started.state) =
        disclosed (run store requests' started'.state) ∧
      ∀ rotas, disclosed (runBy store rotas requests started.state) =
        disclosed (runBy store rotas requests' started'.state) := by
  intro store
  have hstore : store.Discreet faults.find? Memory.sight := Memory.behind_discreet faults
  obtain ⟨hstarted, hreport⟩ : Alike faults.find? Memory.sight started.state started'.state ∧ _ :=
    start?_alike hsight hstart hstart'
  have hruns (rotas : List Rota) : disclosed (runBy store rotas requests started.state) =
      disclosed (runBy store rotas requests' started'.state) := by
    obtain ⟨hstates, hreports⟩ := hstarted.runBy hstore rotas houtlines
    exact disclosed_congr hstates hreports
  refine ⟨disclosed_congr hstarted hreport, ?_, hruns⟩
  rw [← runBy_nil store requests (workers_of_start? hstart),
    ← runBy_nil store requests' (workers_of_start? hstart')]
  exact hruns []

/-- Two numbers with one fingerprint stand in for each other: a call from the number ends, and its
record is refused. Of the other records one crashes the store, one is kept, one finds the queue
full, and one is suppressed. -/
theorem numbers_stay_hidden_one_fingerprint :
    let faults : Faults := [("1082112", .refuse (.rejected "barred")),
      ("1089153", .refuse (.rejected "barred")), ("5", .crash), ("6", .crash)]
    let store := Memory.store.behind faults
    let memory (id : Nat) : Memory :=
      { supply := ⟨fun n => .ofNat (n + id), fun _ => default, 0⟩ }
    let start (id : Nat) : Pipeline Memory :=
      { dispatcher := ⟨⟨false⟩, .standard⟩
        writer := { capacity := 2, workers := 2 }
        store := memory id }
    let record (number : Option String) : Record := .make none number .allowed .incoming 0 0
    let asked (id : Nat) (number other : String) : List Request :=
      [.add (.start (.ofNat id) true (some (.tel number)) ⟨0, by decide, by decide⟩),
        .set 0 .ringing ⟨1, by decide, by decide⟩, .set 0 .aborted ⟨2, by decide, by decide⟩,
        .submit [record (some other), record none], .log (record none),
        .log (record (some "911")), .shutdown]
    let requests := asked 1 "1082112" "5"
    let requests' := asked 2 "1089153" "6"
    let ran := run store requests (start 1)
    let ran' := run store requests' (start 7)
    requests ≠ requests' ∧
      outlines faults.find? requests (start 1) = outlines faults.find? requests' (start 7) ∧
      disclosed ran = disclosed ran' ∧ ran.report.events.length = 24 ∧
      ran.report.counted = ⟨1, 2, 1, 1⟩ ∧ ran.state.writer.stats = ⟨3, 1, 2, 1⟩ := by
  intro faults store memory start record asked requests requests' ran ran'
  have hsight : (memory 1).sight = (memory 7).sight := by decide
  have hstart (id : Nat) : start? ⟨⟨false⟩, .standard⟩ 2 2 (memory id) =
      some ⟨(), start id,
        .of [.writerStarted 2 2] ++ (register (start id).dispatcher []).report⟩ := rfl
  have houtlines : outlines faults.find? requests (start 1) =
      outlines faults.find? requests' (start 7) := by decide +kernel
  obtain ⟨-, hran, -⟩ :=
    numbers_stay_hidden faults hsight (hstart 1) (hstart 7) houtlines
  exact ⟨by decide, houtlines, hran, by decide, by decide, by decide⟩

end Pipeline
end CallHistory
