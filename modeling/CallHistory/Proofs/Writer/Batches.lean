import Mathlib.Data.List.Basic
import CallHistory.Proofs.Store.Laws

/-! # Records on their own

A batch is written record by record. The store is asked once for each record, in order, and what it
replies makes the outcome of that record and of no other: neither a refusal nor a crash keeps it from
being asked for the records behind. Where the fate of a record is up to the record, it is the same
whatever else is in the batch, and so is what is kept of it.
-/

namespace CallHistory

variable {σ γ δ : Type}

namespace Outcome

theorem ofReply_eq_persisted {reply : Reply} {entry : EntryId} :
    ofReply reply = persisted entry ↔ reply = .stored entry := by
  cases reply <;> simp [ofReply]

theorem ofReply_eq_failed {reply : Reply} :
    ofReply reply = failed ↔ (∃ cause, reply = .refused cause) ∨ reply = .crashed := by
  cases reply <;> simp [ofReply]

/-- What an outcome tells to those who read entries in some way; one that is a failure tells
nothing. -/
def told? (read : EntryId → γ) (o : Outcome) : Option γ := o.entry?.map read

/-- Where entries are not told apart, an outcome tells whether it is a failure. -/
theorem told?_unit (o : Outcome) : o.told? (fun _ => ()) = if o.isFailed then none else some () := by
  cases o <;> rfl

end Outcome

/-- A record of a batch, and what stands in its place in another one: itself, or other records, which
may be none. -/
structure Edit where
  record : Record
  instead? : Option (List Record) := none

def Edit.records (e : Edit) : List Record := e.instead?.getD [e.record]

namespace Store

/-- A store that also notes what it is asked to add, with its replies. -/
def recording (store : Store σ) : Store (σ × List (Record × Reply)) where
  add r s :=
    let reply := store.add r s.1
    ⟨reply.answer, (reply.state, s.2 ++ [(r, reply.answer)]), reply.report⟩
  lock b s := (store.lock b s.1, s.2)

/-- What is noted of a batch are its records, once each and in order, with the replies that make its
outcomes. -/
theorem exists_calls_of_recording (store : Store σ) (batch : List Record) (s : σ)
    (noted : List (Record × Reply)) :
    ∃ calls : List (Record × Reply),
      store.recording.writeAll batch (s, noted) =
        ⟨(store.writeAll batch s).answer, ((store.writeAll batch s).state, noted ++ calls),
          (store.writeAll batch s).report⟩ ∧
      calls.map Prod.fst = batch ∧
      (store.writeAll batch s).answer = calls.map fun call => .ofReply call.2 := by
  induction batch generalizing s noted with
  | nil => exact ⟨[], by rw [List.append_nil]; rfl, rfl, rfl⟩
  | cons r rest ih =>
    let reply := (store.add r s).answer
    obtain ⟨calls, hrun, hrecords, hanswer⟩ := ih (store.write r s).state (noted ++ [(r, reply)])
    refine ⟨(r, reply) :: calls, ?_, congrArg (r :: ·) hrecords, congrArg (_ :: ·) hanswer⟩
    have hfirst : store.recording.write r (s, noted) =
        ⟨(store.write r s).answer, ((store.write r s).state, noted ++ [(r, reply)]),
          (store.write r s).report⟩ := rfl
    rw [writeAll, hfirst, hrun, List.append_assoc]
    rfl

theorem writeAll_append (store : Store σ) (first second : List Record) (s : σ) :
    store.writeAll (first ++ second) s =
      let one := store.writeAll first s
      let two := store.writeAll second one.state
      ⟨one.answer ++ two.answer, two.state, one.report ++ two.report⟩ := by
  induction first generalizing s with
  | nil => simp [writeAll]
  | cons r rest ih => simp [writeAll, ih, Report.append_assoc]

/-- Records that fail and leave the store as it was leave no trace: without them the store is the same
in the end, and so is the outcome of every other record. -/
theorem writeAll_filter {store : Store σ} {fails : Record → Bool}
    (hfails : ∀ r s, fails r = true →
      (store.write r s).answer = .failed ∧ (store.write r s).state = s)
    (batch : List Record) (s : σ) :
    let others := batch.filter (!fails ·)
    (store.writeAll others s).state = (store.writeAll batch s).state ∧
      others.zip (store.writeAll others s).answer =
        (batch.zip (store.writeAll batch s).answer).filter (!fails ·.1) := by
  induction batch generalizing s with
  | nil => exact ⟨rfl, rfl⟩
  | cons r rest ih =>
    cases hr : fails r with
    | true =>
      obtain ⟨hstate, houtcomes⟩ := ih s
      simp only [List.filter_cons, hr, Bool.not_true, Bool.false_eq_true, if_false, writeAll,
        (hfails r s hr).2, List.zip_cons_cons]
      exact ⟨hstate, houtcomes⟩
    | false =>
      obtain ⟨hstate, houtcomes⟩ := ih (store.write r s).state
      simp only [List.filter_cons, hr, Bool.not_false, if_true, writeAll, List.zip_cons_cons]
      exact ⟨hstate, congrArg (_ :: ·) houtcomes⟩

def told (store : Store σ) (read : EntryId → γ) (batch : List Record) (s : σ) : List (Option γ) :=
  (store.writeAll batch s).answer.map (Outcome.told? read)

/-- A store that goes by the record alone, in the states that `ok` holds of and no write leaves. What
its outcomes tell is the fate of the record, and what is kept grows at its end by a form of the
record. Of a record that fails nothing is kept. -/
structure GoesByRecord (store : Store σ) (ok : σ → Prop) (read : EntryId → γ)
    (fate : Record → Option γ) (kept : σ → List δ) (form : Record → List δ) : Prop where
  write_ok : ∀ r s, ok s → ok (store.write r s).state
  told_write : ∀ r s, ok s → (store.write r s).answer.told? read = fate r
  kept_write : ∀ r s, ok s → kept (store.write r s).state = kept s ++ form r
  form_of_failed : ∀ r, fate r = none → form r = []

namespace GoesByRecord

variable {store : Store σ} {ok : σ → Prop} {read : EntryId → γ} {fate : Record → Option γ}
  {kept : σ → List δ} {form : Record → List δ}

theorem writeAll (h : store.GoesByRecord ok read fate kept form) (batch : List Record) {s : σ}
    (hok : ok s) :
    store.told read batch s = batch.map fate ∧
      kept (store.writeAll batch s).state = kept s ++ batch.flatMap form := by
  induction batch generalizing s with
  | nil => exact ⟨rfl, (List.append_nil _).symm⟩
  | cons r rest ih =>
    obtain ⟨htold, hkept⟩ := ih (h.write_ok r s hok)
    constructor
    · rw [List.map_cons, ← h.told_write r s hok, ← htold]
      rfl
    · rw [Store.writeAll, hkept, h.kept_write r s hok, List.flatMap_cons, List.append_assoc]

theorem told_append (h : store.GoesByRecord ok read fate kept form) (first second : List Record)
    {s t u : σ} (hs : ok s) (ht : ok t) (hu : ok u) :
    store.told read (first ++ second) s = store.told read first t ++ store.told read second u := by
  rw [(h.writeAll _ hs).1, (h.writeAll _ ht).1, (h.writeAll _ hu).1, List.map_append]

theorem edited (h : store.GoesByRecord ok read fate kept form) (front back : List Edit) (r : Record)
    {s : σ} (hok : ok s) :
    let edits := front ++ ⟨r, none⟩ :: back
    let before := edits.map Edit.record
    let after := edits.flatMap Edit.records
    ((store.told read before s)[front.length]? = some (fate r) ∧
      (store.told read after s)[(front.flatMap Edit.records).length]? = some (fate r)) ∧
      kept (store.writeAll before s).state = kept s ++ (front.map Edit.record).flatMap form ++
        form r ++ (back.map Edit.record).flatMap form ∧
      kept (store.writeAll after s).state = kept s ++ (front.flatMap Edit.records).flatMap form ++
        form r ++ (back.flatMap Edit.records).flatMap form := by
  intro edits before after
  obtain ⟨hbefore, hkept⟩ := h.writeAll before hok
  obtain ⟨hafter, hkept'⟩ := h.writeAll after hok
  rw [hbefore, hafter, hkept, hkept']
  simp [before, after, edits, Edit.records]

/-- Failing records that give way to failing ones, or to none, leave what is kept as it is. -/
theorem kept_edited (h : store.GoesByRecord ok read fate kept form) {edits : List Edit}
    (hfailed : ∀ e ∈ edits, ∀ others, e.instead? = some others →
      fate e.record = none ∧ ∀ r ∈ others, fate r = none) {s : σ} (hok : ok s) :
    kept (store.writeAll (edits.flatMap Edit.records) s).state =
      kept (store.writeAll (edits.map Edit.record) s).state := by
  have hform : (edits.flatMap Edit.records).flatMap form = (edits.map Edit.record).flatMap form := by
    rw [List.flatMap_assoc, List.flatMap_map]
    refine List.flatMap_congr fun e he => ?_
    rcases e with ⟨r, - | others⟩
    · simp [Edit.records]
    · obtain ⟨hr, hothers⟩ := hfailed _ he others rfl
      have hnone : others.flatMap form = [] :=
        List.flatMap_eq_nil_iff.mpr fun x hx => h.form_of_failed x (hothers x hx)
      simp [Edit.records, hnone, h.form_of_failed r hr]
  rw [(h.writeAll _ hok).2, (h.writeAll _ hok).2, hform]

end GoesByRecord
end Store

theorem Memory.behind_goesByRecord (faults : Faults) :
    (store.behind faults).GoesByRecord (fun m => m.locked = false) (fun _ => ())
      (fun r => if faults.spares r then some () else none) records
      (fun r => if faults.spares r then [r] else []) where
  write_ok r m hlock := (write_behind faults r m).2.1.trans hlock
  told_write r m hlock := by
    rw [Outcome.told?_unit, (write_behind faults r m).1, hlock]
    cases faults.spares r <;> rfl
  kept_write r m hlock := by
    rw [(write_behind faults r m).2.2, hlock]
    cases faults.spares r <;> rfl
  form_of_failed r hr := by
    cases hspared : faults.spares r with
    | true => simp [hspared] at hr
    | false => rfl

namespace Store

/-- A batch asks the store to add each of its records once, in order, and has one outcome for each:
persisted under the entry with which the store replied, and failed if it refused or crashed, whatever
state it is in by then. A batch is the same as its parts one after the other. Where a store goes by
the record, the fates in a batch are those of its records, from whatever state; a record that stays
in a batch keeps its fate and its stored form whatever stands in the places of others; and what is
stored is the same if failing records give way to failing ones or to none. Where records that fail
leave the store as it was, the whole store is the same without them, and so are the entries of the
others. -/
theorem records_written_on_their_own (store : Store σ) :
    (∀ (batch : List Record) (s : σ),
      let wrote := store.writeAll batch s
      let noted := store.recording.writeAll batch (s, [])
      (noted.answer = wrote.answer ∧ noted.state.1 = wrote.state ∧ noted.report = wrote.report) ∧
        noted.state.2.map Prod.fst = batch ∧
        wrote.answer = noted.state.2.map fun call => .ofReply call.2) ∧
    (∀ reply, (∀ entry, Outcome.ofReply reply = .persisted entry ↔ reply = .stored entry) ∧
      (Outcome.ofReply reply = .failed ↔ (∃ cause, reply = .refused cause) ∨ reply = .crashed)) ∧
    (∀ (first second : List Record) (s : σ),
      store.writeAll (first ++ second) s =
        let one := store.writeAll first s
        let two := store.writeAll second one.state
        ⟨one.answer ++ two.answer, two.state, one.report ++ two.report⟩) ∧
    (∀ {γ δ : Type} {ok : σ → Prop} {read : EntryId → γ} {fate : Record → Option γ}
      {kept : σ → List δ} {form : Record → List δ}, store.GoesByRecord ok read fate kept form →
      (∀ batch s, ok s → store.told read batch s = batch.map fate ∧
        kept (store.writeAll batch s).state = kept s ++ batch.flatMap form) ∧
      (∀ first second s t u, ok s → ok t → ok u →
        store.told read (first ++ second) s = store.told read first t ++ store.told read second u) ∧
      (∀ (front back : List Edit) (r : Record) (s : σ), ok s →
        let edits := front ++ ⟨r, none⟩ :: back
        let before := edits.map Edit.record
        let after := edits.flatMap Edit.records
        ((store.told read before s)[front.length]? = some (fate r) ∧
          (store.told read after s)[(front.flatMap Edit.records).length]? = some (fate r)) ∧
          kept (store.writeAll before s).state = kept s ++ (front.map Edit.record).flatMap form ++
            form r ++ (back.map Edit.record).flatMap form ∧
          kept (store.writeAll after s).state = kept s ++
            (front.flatMap Edit.records).flatMap form ++ form r ++
              (back.flatMap Edit.records).flatMap form) ∧
      ∀ (edits : List Edit) (s : σ), ok s →
        (∀ e ∈ edits, ∀ others, e.instead? = some others →
          fate e.record = none ∧ ∀ r ∈ others, fate r = none) →
        kept (store.writeAll (edits.flatMap Edit.records) s).state =
          kept (store.writeAll (edits.map Edit.record) s).state) ∧
    ∀ fails : Record → Bool,
      (∀ r s, fails r = true →
        (store.write r s).answer = .failed ∧ (store.write r s).state = s) →
      ∀ (batch : List Record) (s : σ),
        let others := batch.filter (!fails ·)
        (store.writeAll others s).state = (store.writeAll batch s).state ∧
          others.zip (store.writeAll others s).answer =
            (batch.zip (store.writeAll batch s).answer).filter (!fails ·.1) := by
  refine ⟨fun batch s => ?_, fun reply => ⟨fun entry => Outcome.ofReply_eq_persisted,
    Outcome.ofReply_eq_failed⟩, store.writeAll_append, fun h => ⟨fun batch s hok => h.writeAll batch hok,
    fun first second s t u => h.told_append first second, fun front back r s => h.edited front back r,
    fun edits s hok hfailed => h.kept_edited hfailed hok⟩, fun fails => writeAll_filter⟩
  obtain ⟨calls, hrun, hrecords, hanswer⟩ := store.exists_calls_of_recording batch s []
  rw [hrun]
  exact ⟨⟨rfl, rfl, rfl⟩, hrecords, hanswer⟩

/-- A batch with a crash and a refusal in it: the one gives way to none and the other to two that fail
as well. -/
theorem records_written_on_their_own_edited :
    let record (number : String) : Record := .make none (some number) .allowed .incoming 0 0
    let store := Memory.store.behind [("2", .crash), ("4", .refuse .locked)]
    let m : Memory := { supply := ⟨Uuid.ofNat, fun _ => default, 0⟩ }
    let edits : List Edit := [⟨record "1", none⟩, ⟨record "2", some []⟩, ⟨record "3", none⟩,
      ⟨record "4", some [record "2", record "4"]⟩, ⟨record "5", none⟩]
    let before := store.writeAll (edits.map Edit.record) m
    let after := store.writeAll (edits.flatMap Edit.records) m
    before.answer = [.persisted ⟨Uuid.ofNat 0⟩, .failed, .persisted ⟨Uuid.ofNat 1⟩, .failed,
        .persisted ⟨Uuid.ofNat 2⟩] ∧
      after.state.records = before.state.records ∧
      (store.told (fun _ => ()) (edits.flatMap Edit.records) m)[1]? = some (some ()) := by
  intro record store m edits before after
  let faults : Faults := [("2", .crash), ("4", .refuse .locked)]
  obtain ⟨-, -, -, hrecord, -⟩ := records_written_on_their_own store
  obtain ⟨-, -, hstays, hsame⟩ := hrecord (Memory.behind_goesByRecord faults)
  have hedited := hstays [⟨record "1", none⟩, ⟨record "2", some []⟩]
    [⟨record "4", some [record "2", record "4"]⟩, ⟨record "5", none⟩] (record "3") m rfl
  exact ⟨by decide, hsame edits m rfl (by decide), hedited.1.2⟩

end Store
end CallHistory
