import CallHistory.Store.Database
import CallHistory.Store.Fault
import CallHistory.Store.Memory
import CallHistory.Writer.Queue

/-! # Laws of stores

A store is known by what it keeps. Two laws say how that grows: what is kept comes after what was
kept before, and whether a record is kept may be up to the record alone. The memory store behind a
table of faults has the first in every state and the second as long as nobody turns its lock. A third
law is all that is asked of a store that may also lose or garble what it is given: no number is held
that was never given. Counting is the business of the writer, and a store may leave all of it to it.
-/

namespace CallHistory

variable {σ : Type}

namespace Store

/-- What is read of a state as kept grows, at its end, by each record that the store keeps. -/
def Appends (store : Store σ) (kept : σ → List Record) : Prop :=
  ∀ r s, kept (store.write r s).state =
    kept s ++ if (store.write r s).answer.isFailed then [] else [r]

/-- In the states that `ok` holds of, which no write leaves, the record alone decides whether the
store keeps it. -/
structure Decides (store : Store σ) (ok : σ → Prop) (keeps : Record → Bool) : Prop where
  write_ok : ∀ r s, ok s → ok (store.write r s).state
  isFailed_write : ∀ r s, ok s → (store.write r s).answer.isFailed = !keeps r

/-- A way to read what a state holds under which no number comes into the store by itself: a record
that is held was held before, or bears the number of the record that the store has just been
given. -/
structure Holds (store : Store σ) (held : σ → Record → Prop) : Prop where
  add : ∀ {r s x}, held (store.add r s).state x → held s x ∨ x.number = r.number
  lock : ∀ {locked s x}, held (store.lock locked s) x → held s x

def CountsNothing (store : Store σ) : Prop := ∀ r s, (store.add r s).report.counted = {}

section Work

variable {store : Store σ} {ok : σ → Prop} {keeps : Record → Bool} {kept : σ → List Record}

theorem Decides.writeAll (hdecides : store.Decides ok keeps) (hkept : store.Appends kept)
    (batch : List Record) {s : σ} (hok : ok s) :
    ok (store.writeAll batch s).state ∧
      kept (store.writeAll batch s).state = kept s ++ batch.filter keeps := by
  induction batch generalizing s with
  | nil => exact ⟨hok, (List.append_nil _).symm⟩
  | cons r rest ih =>
    obtain ⟨hlater, hrest⟩ := ih (hdecides.write_ok r s hok)
    refine ⟨hlater, ?_⟩
    change kept (store.writeAll rest (store.write r s).state).state = _
    rw [hrest, hkept r s, hdecides.isFailed_write r s hok, List.append_assoc]
    cases hr : keeps r <;> simp [hr]

theorem Decides.work (hdecides : store.Decides ok keeps) (hkept : store.Appends kept)
    (queue : List (List Record)) (stats : WriterStats) {s : σ} (hok : ok s) :
    ok (Writer.work store queue (stats, s)).state.2 ∧
      kept (Writer.work store queue (stats, s)).state.2 = kept s ++ queue.flatten.filter keeps := by
  induction queue generalizing stats s with
  | nil => exact ⟨hok, (List.append_nil _).symm⟩
  | cons batch rest ih =>
    obtain ⟨hbatch, hstored⟩ := hdecides.writeAll hkept batch hok
    obtain ⟨hlater, hrest⟩ := ih (Writer.settle stats (store.writeAll batch s).answer) hbatch
    refine ⟨hlater, ?_⟩
    rw [List.flatten_cons, List.filter_append, ← List.append_assoc, ← hstored]
    exact hrest

end Work

theorem CountsNothing.write {store : Store σ} (h : store.CountsNothing) (r : Record) (s : σ) :
    (store.write r s).report.counted = {} := by
  simp [Store.write, h r s]

theorem CountsNothing.writeAll {store : Store σ} (h : store.CountsNothing) (batch : List Record)
    (s : σ) : (store.writeAll batch s).report.counted = {} := by
  induction batch generalizing s with
  | nil => rfl
  | cons r rest ih =>
    change ((store.write r s).report ++ (store.writeAll rest _).report).counted = {}
    rw [Report.append_counted, h.write, ih]
    rfl

theorem behind_add_of_fault (store : Store σ) {faults : Faults} {r : Record} {fault : Fault}
    (h : faults.find? r = some fault) (s : σ) :
    (store.behind faults).add r s = ⟨fault.reply, s, {}⟩ := by
  simp [behind, h]

theorem behind_add_of_none (store : Store σ) {faults : Faults} {r : Record}
    (h : faults.find? r = none) (s : σ) : (store.behind faults).add r s = store.add r s := by
  simp [behind, h]

end Store

def Faults.spares (faults : Faults) (r : Record) : Bool := (faults.find? r).isNone

namespace Memory

variable (faults : Faults)

/-- What the memory store behind faults does with a record: it keeps one that has no fault if it is
not locked, and is left as it was otherwise. -/
theorem write_behind (r : Record) (m : Memory) :
    ((store.behind faults).write r m).answer.isFailed = (m.locked || !faults.spares r) ∧
      ((store.behind faults).write r m).state.locked = m.locked ∧
      ((store.behind faults).write r m).state.records =
        m.records ++ if m.locked || !faults.spares r then [] else [r] := by
  unfold Store.write Faults.spares
  cases hfault : faults.find? r with
  | some fault =>
    rw [Store.behind_add_of_fault store hfault m]
    cases fault <;> simp [Fault.reply, Outcome.ofReply, Outcome.isFailed]
  | none =>
    rw [Store.behind_add_of_none store hfault m]
    cases hlock : m.locked <;>
      simp [store, add, hlock, Outcome.ofReply, Outcome.isFailed, records]

theorem behind_appends : (store.behind faults).Appends records := by
  intro r m
  obtain ⟨hfailed, -, hrecords⟩ := write_behind faults r m
  rw [hrecords, hfailed]

theorem behind_decides (locked : Bool) :
    (store.behind faults).Decides (fun m => m.locked = locked)
      (fun r => !locked && faults.spares r) where
  write_ok r m hlock := (write_behind faults r m).2.1.trans hlock
  isFailed_write r m hlock := by
    rw [(write_behind faults r m).1, hlock]
    cases locked <;> simp

theorem behind_holds : (store.behind faults).Holds fun m r => r ∈ m.records where
  add {r m x} hx := by
    have hrecords := (write_behind faults r m).2.2
    change x ∈ ((store.behind faults).write r m).state.records at hx
    rw [hrecords, List.mem_append] at hx
    refine hx.imp_right fun hnew => ?_
    split at hnew
    · cases hnew
    · rw [List.mem_singleton.mp hnew]
  lock hx := hx

theorem behind_countsNothing : (store.behind faults).CountsNothing := by
  intro r m
  cases hfault : faults.find? r with
  | some fault => rw [Store.behind_add_of_fault store hfault m]
  | none =>
    rw [Store.behind_add_of_none store hfault m]
    cases hlock : m.locked <;> simp [store, add, hlock]

theorem behind_nil : store.behind [] = store := by
  have hadd (r : Record) (m : Memory) : (store.behind []).add r m = store.add r m := by
    refine Store.behind_add_of_none store ?_ m
    unfold Faults.find?
    cases r.number <;> rfl
  exact congrArg (fun add => ({ add, lock := store.lock } : Store Memory))
    (funext fun r => funext fun m => hadd r m)

end Memory

namespace Database

theorem store_holds : store.Holds fun d r => r.columns ∈ d.server.rows.map Row.columns where
  add {r d x} hx := by
    have hrows : (store.add r d).state.server.rows = d.server.rows ∨
        ∃ id, (store.add r d).state.server.rows = d.server.rows ++ [⟨id, r.columns⟩] := by
      cases hclosed : d.closed with
      | true =>
        left
        simp [store, add, hclosed]
      | false =>
        refine .inr ⟨d.supply.entry.uuid, ?_⟩
        cases hfault : d.server.onInsert r.number with
        | some fault => simp [store, add, hclosed, hfault]
        | none => simp [store, add, hclosed, hfault]
    rcases hrows with hsame | ⟨id, hnew⟩
    · rw [hsame] at hx
      exact .inl hx
    · rw [hnew, List.map_append, List.mem_append] at hx
      refine hx.imp_right fun hcolumns => ?_
      have hnumber := congrArg List.head? (List.mem_singleton.mp hcolumns)
      simpa [Record.columns] using hnumber
  lock hx := hx

end Database
end CallHistory
