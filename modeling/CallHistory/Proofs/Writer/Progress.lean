import CallHistory.Proofs.Report.Series
import CallHistory.Proofs.Store.Laws
import CallHistory.Store.Archive

/-! # The progress of records

While a batch is written, each record is reported to move twice: it is taken in hand, and it ends as
persisted or as failed. The moves of one record are over before those of the next begin. In between,
the store may report what it likes; the writing itself adds one event, an error if the record fails.
-/

namespace CallHistory

variable {σ : Type}

namespace WriteState

/-- Where a record is after moves, if each of them starts where the last one ended and may be made. -/
def follow? : WriteState → List (WriteState × WriteState) → Option WriteState
  | s, [] => some s
  | s, (left, entered) :: rest =>
    if left = s ∧ s.canMoveTo entered then follow? entered rest else none

theorem canMoveTo_of_isTerminal {s : WriteState} (h : s.isTerminal = true) (t : WriteState) :
    s.canMoveTo t = false := by
  cases s <;> cases t <;> simp_all [canMoveTo, isTerminal]

theorem submitted_canMoveTo {t : WriteState} : submitted.canMoveTo t = true ↔ t = writing := by
  cases t <;> simp [canMoveTo]

theorem writing_canMoveTo {t : WriteState} : writing.canMoveTo t = true ↔ t.isTerminal = true := by
  cases t <;> simp [canMoveTo, isTerminal]

theorem follow?_cons_eq_some {s t : WriteState} {move : WriteState × WriteState}
    {rest : List (WriteState × WriteState)} :
    s.follow? (move :: rest) = some t ↔
      move.1 = s ∧ s.canMoveTo move.2 = true ∧ move.2.follow? rest = some t := by
  simp [follow?, and_assoc]

theorem follow?_of_isTerminal {s t : WriteState} (h : s.isTerminal = true)
    (moves : List (WriteState × WriteState)) :
    s.follow? moves = some t ↔ moves = [] ∧ s = t := by
  cases moves with
  | nil => simp [follow?]
  | cons move rest => simp [follow?_cons_eq_some, canMoveTo_of_isTerminal h]

end WriteState

namespace Outcome

def moves (o : Outcome) : List (WriteState × WriteState) :=
  [(.submitted, .writing), (.writing, o.state)]

theorem isTerminal_state (o : Outcome) : o.state.isTerminal = true := by
  cases o <;> rfl

theorem canMoveTo_of_mem_moves {o : Outcome} {move : WriteState × WriteState} (h : move ∈ o.moves) :
    move.1.canMoveTo move.2 = true ∧ move.1.isTerminal = false := by
  rw [moves, List.mem_pair] at h
  obtain rfl | rfl := h
  · exact ⟨rfl, rfl⟩
  · exact ⟨WriteState.writing_canMoveTo.mpr o.isTerminal_state, rfl⟩

/-- There is no other way from where a record starts to where it ends. -/
theorem follow?_eq_state_iff (o : Outcome) (moves : List (WriteState × WriteState)) :
    WriteState.submitted.follow? moves = some o.state ↔ moves = o.moves := by
  constructor
  · intro h
    -- Fewer than two moves stop short of an end, and more would leave one.
    cases moves with
    | nil => cases o <;> simp [WriteState.follow?, state] at h
    | cons first rest =>
      obtain ⟨hleft, hentered, hrest⟩ := WriteState.follow?_cons_eq_some.mp h
      have hfirst : first = (.submitted, .writing) :=
        Prod.ext hleft (WriteState.submitted_canMoveTo.mp hentered)
      rw [hfirst] at hrest
      cases rest with
      | nil => cases o <;> simp [WriteState.follow?, state] at hrest
      | cons second others =>
        obtain ⟨hleft', hentered', hothers⟩ := WriteState.follow?_cons_eq_some.mp hrest
        have hends := WriteState.writing_canMoveTo.mp hentered'
        obtain ⟨rfl, hlast⟩ := (WriteState.follow?_of_isTerminal hends others).mp hothers
        have hsecond : second = (.writing, o.state) := Prod.ext hleft' hlast
        rw [hfirst, hsecond, Outcome.moves]
  · rintro rfl
    simp [moves, WriteState.follow?, WriteState.submitted_canMoveTo, WriteState.writing_canMoveTo,
      o.isTerminal_state]

theorem failures_eq_count (outcomes : List Outcome) :
    failures outcomes = outcomes.count .failed := by
  rw [failures, List.count]
  exact List.countP_congr fun o _ => by cases o <;> simp [isFailed]

end Outcome

namespace Report.Event

def move? : Event → Option (WriteState × WriteState)
  | writeMoved left entered => some (left, entered)
  | _ => none

def isOfWriting (e : Event) : Bool := e.source = "calllog::application::log_writer"

end Report.Event

/-- What the writing of a record reports, whatever the store reports in between. -/
def Reply.told (reply : Reply) : List Report.Event :=
  [.writeMoved .submitted .writing, reply.event, .writeMoved .writing (Outcome.ofReply reply).state]

namespace Reply

theorem filterMap_move?_told (reply : Reply) :
    reply.told.filterMap Report.Event.move? = (Outcome.ofReply reply).moves := by
  cases reply <;> rfl

theorem countP_error_told (reply : Reply) :
    reply.told.countP (·.level = .error) = if Outcome.ofReply reply = .failed then 1 else 0 := by
  cases reply <;> rfl

theorem filter_isOfWriting_told (reply : Reply) :
    reply.told.filter Report.Event.isOfWriting = reply.told := by
  cases reply <;> rfl

theorem countP_error_flatMap_told (replies : List Reply) :
    (replies.flatMap told).countP (·.level = .error) =
      (replies.map Outcome.ofReply).count .failed := by
  induction replies with
  | nil => rfl
  | cons reply rest ih =>
    rw [List.flatMap_cons, List.countP_append, ih, countP_error_told, List.map_cons, List.count_cons,
      Nat.add_comm]
    simp

theorem filterMap_move?_flatMap_told (replies : List Reply) :
    (replies.flatMap told).filterMap Report.Event.move? =
      (replies.map Outcome.ofReply).flatMap Outcome.moves := by
  induction replies with
  | nil => rfl
  | cons reply rest ih => simp [ih, filterMap_move?_told]

end Reply

namespace Store

def silent (store : Store σ) : Store σ where
  add r s := { store.add r s with report := {} }
  lock := store.lock

/-- What is reported of a batch is what is reported of its records, one after another, and what the
store reports of a record stands between the moves of that record. -/
theorem writeAll_eq_series (store : Store σ) (batch : List Record) (s : σ) :
    let asked := Step.series store.add batch s
    (store.writeAll batch s).answer = asked.map (fun reply => .ofReply reply.answer) ∧
      (store.writeAll batch s).report.events = asked.flatMap fun reply =>
        [.writeMoved .submitted .writing] ++ reply.report.events ++
          [reply.answer.event, .writeMoved .writing (Outcome.ofReply reply.answer).state] := by
  induction batch generalizing s with
  | nil => exact ⟨rfl, rfl⟩
  | cons r rest ih =>
    obtain ⟨hanswer, hevents⟩ := ih (store.add r s).state
    constructor
    · exact congrArg (_ :: ·) hanswer
    · simp only [Step.series, List.flatMap_cons, ← hevents]
      simp [writeAll, write]

/-- In front of a silent store the writing alone is heard, and it does the same. -/
theorem writeAll_silent (store : Store σ) (batch : List Record) (s : σ) :
    let wrote := store.writeAll batch s
    let own := store.silent.writeAll batch s
    own.answer = wrote.answer ∧ own.state = wrote.state ∧
      own.report.events = ((Step.series store.add batch s).map Step.answer).flatMap Reply.told := by
  induction batch generalizing s with
  | nil => exact ⟨rfl, rfl, rfl⟩
  | cons r rest ih =>
    obtain ⟨hanswer, hstate, hevents⟩ := ih (store.add r s).state
    refine ⟨congrArg (_ :: ·) hanswer, hstate, ?_⟩
    simp only [Step.series, List.map_cons, List.flatMap_cons, ← hevents]
    rfl

/-- Nothing that the store reports looks as if it came from where records are written. -/
def ReportsApart (store : Store σ) : Prop :=
  ∀ r s, (store.add r s).report.events.filter Report.Event.isOfWriting = []

theorem ReportsApart.behind {store : Store σ} (h : store.ReportsApart) (faults : Faults) :
    (store.behind faults).ReportsApart := by
  intro r s
  cases hfault : faults.find? r with
  | some fault => rw [behind_add_of_fault store hfault]; rfl
  | none => rw [behind_add_of_none store hfault]; exact h r s

theorem ReportsApart.filter_writeAll {store : Store σ} (h : store.ReportsApart)
    (batch : List Record) (s : σ) :
    (store.writeAll batch s).report.events.filter Report.Event.isOfWriting =
      (store.silent.writeAll batch s).report.events := by
  induction batch generalizing s with
  | nil => rfl
  | cons r rest ih =>
    let reply := (store.add r s).answer
    have hevents : (store.write r s).report.events =
        [.writeMoved .submitted .writing] ++ (store.add r s).report.events ++
          [reply.event, .writeMoved .writing (Outcome.ofReply reply).state] := rfl
    have hfirst : (store.write r s).report.events.filter Report.Event.isOfWriting = reply.told := by
      rw [hevents, List.filter_append, List.filter_append, h r s, List.append_nil,
        ← List.filter_append]
      exact reply.filter_isOfWriting_told
    change ((store.write r s).report.events ++ (store.writeAll rest _).report.events).filter _ = _
    rw [List.filter_append, hfirst, ih]
    rfl

end Store

theorem Memory.store_reportsApart : store.ReportsApart := by
  intro r m
  simp only [store, add]
  split <;> rfl

theorem FileLog.store_reportsApart {δ : Type} (disk : Disk δ) : (store disk).ReportsApart := by
  intro r f
  simp only [store, add]
  split <;> rfl

theorem Database.store_reportsApart : store.ReportsApart := by
  intro r d
  simp only [store, add]
  split
  · rfl
  · split <;> rfl

theorem Archive.store_reportsApart {δ : Type} (disk : Disk δ) : (store disk).ReportsApart := by
  intro r a
  cases a with
  | memory m => exact Memory.store_reportsApart r m
  | file f => exact FileLog.store_reportsApart disk r f
  | database d => exact Database.store_reportsApart r d

namespace Store

/-- A batch is written record by record. What is reported of a record are two moves with what the store
reports in between and what came of the record. Without the reports of the store, the moves are that
the record is taken in hand and that it ends as its outcome says, which is the only way there: each
move starts where the one before ended, is one that records make, and none leaves an end. As many
errors are reported as records failed, and as many warnings are given once the batch is done. Every
store that can be opened lets its reports be told from these. -/
theorem records_move_one_after_another (store : Store σ) :
    (∀ (batch : List Record) (s : σ),
      let wrote := store.writeAll batch s
      let asked := Step.series store.add batch s
      let own := (store.silent.writeAll batch s).report.events
      let moves := own.filterMap Report.Event.move?
      (wrote.answer = asked.map (fun reply => .ofReply reply.answer) ∧
        wrote.report.events = asked.flatMap fun reply =>
          [.writeMoved .submitted .writing] ++ reply.report.events ++
            [reply.answer.event, .writeMoved .writing (Outcome.ofReply reply.answer).state]) ∧
        own = asked.flatMap (fun reply =>
          [.writeMoved .submitted .writing, reply.answer.event,
            .writeMoved .writing (Outcome.ofReply reply.answer).state]) ∧
        moves = wrote.answer.flatMap (fun o => [(.submitted, .writing), (.writing, o.state)]) ∧
        (∀ move ∈ moves, move.1.canMoveTo move.2 = true ∧ move.1.isTerminal = false) ∧
        own.countP (·.level = .error) = wrote.answer.count .failed ∧
        Outcome.failures wrote.answer = wrote.answer.count .failed ∧
        (Outcome.warnings wrote.answer).length = wrote.answer.count .failed ∧
        ∀ e ∈ Outcome.warnings wrote.answer, e = .writeFailed ∧ e.level = .warn) ∧
    (∀ (o : Outcome) (moves : List (WriteState × WriteState)),
      WriteState.submitted.follow? moves = some o.state ↔
        moves = [(.submitted, .writing), (.writing, o.state)]) ∧
    (store.ReportsApart → ∀ (batch : List Record) (s : σ),
      (store.writeAll batch s).report.events.filter Report.Event.isOfWriting =
        (store.silent.writeAll batch s).report.events) ∧
    ∀ {δ : Type} (disk : Disk δ) (faults : Faults),
      ((Archive.store disk).behind faults).ReportsApart := by
  refine ⟨fun batch s => ?_, Outcome.follow?_eq_state_iff, ReportsApart.filter_writeAll,
    fun disk faults => (Archive.store_reportsApart disk).behind faults⟩
  intro wrote asked own moves
  obtain ⟨hanswer, hevents⟩ := store.writeAll_eq_series batch s
  obtain ⟨-, -, hown⟩ := store.writeAll_silent batch s
  have houtcomes : wrote.answer = (asked.map Step.answer).map Outcome.ofReply := by
    rw [List.map_map]
    exact hanswer
  have hmoves : moves = wrote.answer.flatMap Outcome.moves := by
    rw [houtcomes, ← Reply.filterMap_move?_flatMap_told, ← hown]
  have hfailures := Outcome.failures_eq_count wrote.answer
  refine ⟨⟨hanswer, hevents⟩, ?_, hmoves, ?_, ?_, hfailures, ?_, ?_⟩
  · rw [List.flatMap_map] at hown
    exact hown
  · intro move hmove
    rw [hmoves] at hmove
    obtain ⟨o, -, ho⟩ := List.mem_flatMap.mp hmove
    exact Outcome.canMoveTo_of_mem_moves ho
  · rw [houtcomes, ← Reply.countP_error_flatMap_told, ← hown]
  · rw [Outcome.warnings, List.length_replicate, hfailures]
  · intro e he
    rw [List.eq_of_mem_replicate he]
    exact ⟨rfl, rfl⟩

/-- A record that crashes the store, one that it refuses and one that it keeps. -/
theorem records_move_one_after_another_mixed :
    let record (number : String) : Record := .make none (some number) .allowed .incoming 0 0
    let store := Memory.store.behind [("1", .crash), ("2", .refuse .locked)]
    let m : Memory := { supply := ⟨Uuid.ofNat, fun _ => default, 0⟩ }
    let wrote := store.writeAll [record "1", record "2", record "3"] m
    let entry : EntryId := ⟨Uuid.ofNat 0⟩
    store.ReportsApart ∧
      wrote.report.events.filter Report.Event.isOfWriting =
        [.writeMoved .submitted .writing, .storeCrashed, .writeMoved .writing .failed,
          .writeMoved .submitted .writing, .writeRefused .locked, .writeMoved .writing .failed,
          .writeMoved .submitted .writing, .entryWritten entry, .writeMoved .writing .persisted] ∧
      .entryStored entry 1 ∈ wrote.report.events ∧
      (Outcome.warnings wrote.answer).length = 2 ∧
      WriteState.submitted.follow? [(.submitted, .writing), (.writing, .failed)] = some .failed := by
  intro record store m wrote entry
  have hapart : store.ReportsApart := Memory.store_reportsApart.behind _
  obtain ⟨hbatch, hway, hown, -⟩ := records_move_one_after_another store
  obtain ⟨-, -, -, -, -, -, hwarned, -⟩ := hbatch [record "1", record "2", record "3"] m
  refine ⟨hapart, (hown hapart _ m).trans (by decide), by decide, hwarned.trans (by decide), ?_⟩
  exact (hway .failed _).mpr rfl

end Store
end CallHistory
