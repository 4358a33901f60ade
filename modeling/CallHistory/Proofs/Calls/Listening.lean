import Mathlib.Data.List.Infix
import CallHistory.Proofs.Calls.Ending
import CallHistory.Proofs.Report.Series

/-! # Listening

A dispatcher that listens does what one does that is asked to handle a transition, and keeps the
result to itself. Whatever the submitter makes of a batch, the same batches are handed over, the same
is counted and the same is reported, but for one line more where there would have been an error or a
crash to answer with.
-/

namespace CallHistory

variable {σ : Type}

namespace Dispatcher

/-- What sets a step of listening apart from one of handling the same transition. -/
structure Absorbs (t : Transition) (handled : Step σ (Attempt (Option Dispatch)))
    (listened : Step σ Unit) : Prop where
  state : listened.state = handled.state
  counted : listened.report.counted = handled.report.counted
  of_done : ∀ result, handled.answer = .done result →
    listened.report.events = handled.report.events
  of_refused : ∀ cause, handled.answer = .refused cause →
    ∃ e, listened.report.events = handled.report.events ++ [e] ∧ e.level = .warn ∧
      ∀ reveal, e.line reveal = "WARN Call log entry not queued error=" ++ cause.message
  of_crashed : handled.answer = .crashed →
    ∃ e, listened.report.events = handled.report.events ++ [e] ∧ e.level = .error ∧
      ∀ reveal, e.line reveal = "ERROR Call log manager panicked handling " ++ t.describe

theorem line_notQueued (reveal : Bool) (cause : SubmitError) :
    (Report.Event.notQueued cause).line reveal =
      "WARN Call log entry not queued error=" ++ cause.message := by
  have hwords : "WARN" ++ " " ++ "Call log entry not queued" ++ (" " ++ "error" ++ "=") =
      "WARN Call log entry not queued error=" := by decide
  have hfields : (Report.Event.notQueued cause).fieldText reveal =
      " " ++ "error" ++ "=" ++ cause.message := String.empty_append
  rw [← hwords, Report.Event.line, hfields]
  exact String.append_assoc.symm

theorem line_crashed (reveal : Bool) (t : Transition) :
    (Report.Event.crashed t).line reveal =
      "ERROR Call log manager panicked handling " ++ t.describe := by
  have hwords : "ERROR" ++ " " ++ "Call log manager panicked handling " =
      "ERROR Call log manager panicked handling " := by decide
  have hfields : (Report.Event.crashed t).fieldText reveal = "" := rfl
  rw [← hwords, Report.Event.line, hfields, String.append_empty]
  exact String.append_assoc.symm

theorem absorbs (d : Dispatcher) (submit : Submitter σ) (t : Transition) (s : σ) :
    Absorbs t (d.handle submit t s) (d.listen submit t s) where
  state := rfl
  counted := Counters.add_none _
  of_done result h := by simp [listen, h, absorbed]
  of_refused cause h :=
    ⟨.notQueued cause, by simp [listen, h, absorbed], rfl, fun reveal => line_notQueued reveal cause⟩
  of_crashed h :=
    ⟨.crashed t, by simp [listen, h, absorbed], rfl, fun reveal => line_crashed reveal t⟩

/-- Handling a transition answers with what the submitter makes of its batch. Without a batch it never
fails. -/
theorem handle_answer_eq (d : Dispatcher) (submit : Submitter σ) (t : Transition) (s : σ) :
    (d.handle submit t s).answer =
      match d.batchOf? t with
      | some batch => (submit batch s).answer.map fun _ => some .submitted
      | none => .done (if t.isTerminal then some .suppressed else none) := by
  unfold handle batchOf? log batch?
  by_cases hend : t.isTerminal = true
  · by_cases hpermits : d.policy.permits (d.isEmergency (record t)) = true
    · simp only [hend, hpermits, if_true]
      cases (submit [record t] s).answer <;> rfl
    · simp [hend, hpermits, Attempt.map]
  · simp [hend]

theorem series_listen_noted (d : Dispatcher) (submit : Submitter σ) (ts : List Transition) (s : σ)
    (notes : List (List Record)) :
    notes :: (Step.series (d.listen submit.noting) ts (s, notes)).map (·.state.2) =
      ts.inits.map fun seen => notes ++ seen.filterMap d.batchOf? := by
  induction ts generalizing s notes with
  | nil => simp [Step.series]
  | cons t rest ih =>
    have hstate := d.listen_state submit.noting t (s, notes)
    rw [Submitter.given_noting] at hstate
    have hseen (seen : List Transition) :
        (t :: seen).filterMap d.batchOf? = (d.batchOf? t).toList ++ seen.filterMap d.batchOf? := by
      cases h : d.batchOf? t <;> simp [h]
    rw [Step.series, List.map_cons, hstate, ih, List.inits_cons, List.map_cons, List.map_map]
    simp only [List.filterMap_nil, List.append_nil, Function.comp_def, hseen, List.append_assoc]

theorem tell_listening (submit : Submitter σ) (t : Transition) (ds : List Dispatcher) (place : Nat)
    (all : List Dispatcher) (s : σ) :
    let told := tell (listening submit) t place ds (all, s)
    told.answer = true ∧ told.state.1 = all ∧
      told.report.events =
        (Step.series (fun d s => d.listen submit t s) ds s).flatMap (·.report.events) := by
  induction ds generalizing place s with
  | nil => exact ⟨rfl, rfl, rfl⟩
  | cons d rest ih =>
    obtain ⟨hanswer, hall, hevents⟩ := ih (place + 1) (d.listen submit t s).state
    refine ⟨hanswer, hall, ?_⟩
    rw [Step.series, List.flatMap_cons, ← hevents]
    simp [tell, listening, registerAll]

end Dispatcher

/-- Whatever becomes of the batches, asking for a state comes to what the life cycle says. -/
theorem Call.setState_listening_answer (submit : Submitter σ) (c : Call) (target : CallState)
    (now : Instant) (ds : List Dispatcher) (s : σ) :
    (c.setState (Dispatcher.listening submit) target now (ds, s)).answer = c.verdict target := by
  by_cases h : c.state.canMoveTo target = true
  · have htold := (Dispatcher.tell_listening submit ⟨(c.moved target now).info now, c.state, target⟩
      ds 0 ds s).1
    simp only [setState_accepted _ h, htold, if_true]
    simp [verdict, h]
  · rw [setState_refused _ (by simpa using h)]

namespace Dispatcher

/-- Listening to transitions does what handling them does, one after the other and whatever the
submitter answers by then: it leaves the submitter in the same state, with the same batches handed to
it, which are those of the transitions so far; it counts the same, and reports the same but for one
line. There is no such line if handling answers that it is done, a warning if it is refused and an
error if it crashes, which is what the submitter did with the batch. Nothing of it reaches those who
tell the dispatchers: each of them is told, and a call moves as its life cycle says. -/
theorem listening_absorbs_results (d : Dispatcher) (submit : Submitter σ) :
    (∀ (ts : List Transition) (s : σ),
      let handled := Step.series (d.handle submit.noting) ts (s, [])
      let listened := Step.series (d.listen submit.noting) ts (s, [])
      handled.length = ts.length ∧
        List.Forall₂ (fun x step => Absorbs x.1 x.2 step) (ts.zip handled) listened ∧
        [] :: listened.map (·.state.2) = ts.inits.map (·.filterMap d.batchOf?)) ∧
    (∀ (t : Transition) (s : σ), (d.handle submit t s).answer =
      match d.batchOf? t with
      | some batch => (submit batch s).answer.map fun _ => some .submitted
      | none => .done (if t.isTerminal then some .suppressed else none)) ∧
    (∀ (t : Transition) (place : Nat) (ds all : List Dispatcher) (s : σ),
      let told := tell (listening submit) t place ds (all, s)
      told.answer = true ∧ told.state.1 = all ∧
        told.report.events =
          (Step.series (fun d s => d.listen submit t s) ds s).flatMap (·.report.events)) ∧
    ∀ (c : Call) (target : CallState) (now : Instant) (ds : List Dispatcher) (s : σ),
      (c.setState (listening submit) target now (ds, s)).answer = c.verdict target := by
  refine ⟨fun ts s => ⟨Step.length_series _ ts _, ?_, ?_⟩, d.handle_answer_eq submit,
    fun t place ds all s => tell_listening submit t ds place all s,
    fun c target now ds s => c.setState_listening_answer submit target now ds s⟩
  · exact Step.series_forall₂ (R := Absorbs) (fun _ _ => rfl) (d.absorbs submit.noting) ts (s, [])
  · simpa using d.series_listen_noted submit ts s []

/-- A submitter that takes the first batch, refuses the second and crashes at the third, and an
emergency call that it never hears of. -/
theorem listening_absorbs_results_scripted :
    let d : Dispatcher := ⟨⟨false⟩, .standard⟩
    let submit : Submitter (List (Attempt Unit)) := fun _ script =>
      ⟨script.headD (.done ()), script.tail, {}⟩
    let ended (number : String) : Transition :=
      ⟨⟨true, some (.tel number), 0, 0⟩, .ringing, .disconnected⟩
    let ts := [ended "1", ended "2", ended "911", ended "3"]
    let script := [.done (), .refused (.queueFull 1), .crashed]
    let handled := Step.series (d.handle submit.noting) ts (script, [])
    let listened := Step.series (d.listen submit.noting) ts (script, [])
    handled.map Step.answer =
        [.done (some .submitted), .refused (.queueFull 1), .done (some .suppressed), .crashed] ∧
      List.Forall₂ (fun x step => Absorbs x.1 x.2 step) (ts.zip handled) listened ∧
      listened.map (·.report.events.getLast?.map Report.Event.level) =
        [some .debug, some .warn, some .debug, some .error] := by
  intro d submit ended ts script handled listened
  obtain ⟨hsteps, -⟩ := listening_absorbs_results d submit
  exact ⟨by decide, (hsteps ts script).2.1, by decide⟩

end Dispatcher
end CallHistory
