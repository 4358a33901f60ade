import CallHistory.Proofs.Calls.Interval
import CallHistory.Proofs.Record.Roundtrip
import CallHistory.Store.Database

/-! # Durations of records

The table of the database takes no row with a negative duration. Making a record clamps its age, so
the table takes what is made, for a call or otherwise. Reading a record clamps nothing: its duration is
the number that stands in the text, and any that fits a signed 64-bit word will do.
-/

namespace CallHistory

namespace Record

/-! ## Making -/

/-- Whether some start and age make this record. -/
def IsMade (r : Record) : Prop :=
  ∃ start age, make r.contact r.number r.presentation r.kind start age = r

/-- The durations of made records are those of ages, and an age is a word as well. -/
theorem isMade_iff (r : Record) :
    r.IsMade ↔ 0 ≤ r.duration.toInt ∧ r.duration.toInt ≤ 9223372036854775 := by
  constructor
  · rintro ⟨start, age, hmade⟩
    have hage := age.toInt_lt
    rw [← hmade, make, toInt_wholeSeconds]
    omega
  · rintro ⟨hlow, hhigh⟩
    have hage : (Int64.ofInt (r.duration.toInt * 1000)).toInt = r.duration.toInt * 1000 :=
      Int64.toInt_ofInt_of_le (by omega) (by omega)
    have hseconds : max (r.duration.toInt * 1000) 0 / 1000 = r.duration.toInt := by omega
    refine ⟨r.start, .ofInt (r.duration.toInt * 1000), ?_⟩
    rw [make, wholeSeconds, hage, hseconds, Int64.ofInt_toInt]

theorem isMade_make (contact : Option Contact) (number : Option String) (presentation : Presentation)
    (kind : CallKind) (start age : Int64) :
    (make contact number presentation kind start age).IsMade := ⟨start, age, rfl⟩

theorem isMade_ofCall (call : CallInfo) (kind : CallKind) : (ofCall call kind).IsMade :=
  isMade_make ..

/-! ## Reading -/

theorem spelled_duration {s : List Char} {r : Record} (h : parse? s = some r) :
    ∃ v others, Json.parse? s = some v ∧
      v.fields? fieldNames = some (others ++ [some (.ofInt r.duration.toInt)]) := by
  obtain ⟨v, hv, hread⟩ := Option.bind_eq_some_iff.mp h
  unfold ofJson? at hread
  split at hread
  · rename_i contact number presentation kind start duration hfields
    simp only [Option.bind_eq_bind, Option.bind_eq_some_iff] at hread
    obtain ⟨_, -, _, -, _, -, _, -, _, -, d, hd, hr⟩ := hread
    cases hr
    obtain ⟨spelled, rfl, hspelled⟩ := Option.bind_eq_some_iff.mp hd
    rw [Json.eq_ofInt_of_toInt64? hspelled] at hfields
    exact ⟨v, [contact, number, presentation, kind, start], hv, hfields⟩
  · cases hread

end Record

/-! ## The table -/

/-- Whether the row of a record meets the check of the table: the number in the column of the duration
is not negative. -/
def Record.meetsCheck (r : Record) : Bool :=
  match r.columns.lookup "duration_secs" with
  | some (.number _ n) => 0 ≤ n
  | _ => false

theorem Record.meetsCheck_eq (r : Record) : r.meetsCheck = decide (0 ≤ r.duration.toInt) := rfl

/-- A server that holds the row of a record to the check of the table, whatever else may fail. -/
def Server.Checks (server : Server) (r : Record) : Prop :=
  (∃ text, server.onInsert r.number = some (.refuse ServerFault.checkViolation text)) ↔
    r.meetsCheck = false

namespace Database

theorem add_answer (r : Record) (d : Database) :
    (store.add r d).answer =
      if d.closed then .refused (.unavailable closedText)
      else match d.server.onInsert r.number with
        | some fault => .refused fault.error
        | none => .stored d.supply.entry := by
  simp only [store, add]
  cases d.closed with
  | true => rfl
  | false => cases d.server.onInsert r.number <;> rfl

theorem rejected_iff (r : Record) (d : Database) :
    (∃ text, (store.add r d).answer = .refused (.rejected text)) ↔
      d.closed = false ∧
        ∃ text, d.server.onInsert r.number = some (.refuse ServerFault.checkViolation text) := by
  rw [add_answer]
  cases d.closed with
  | true => simp
  | false =>
    cases hfault : d.server.onInsert r.number with
    | none => simp
    | some fault =>
      cases fault with
      | hangUp => simp [ServerFault.error]
      | refuse code text =>
        by_cases hcode : code = ServerFault.checkViolation
        · simp [ServerFault.error, hcode]
        · simp [ServerFault.error, hcode]

theorem rejected_iff_neg {r : Record} {d : Database} (h : d.server.Checks r) :
    (∃ text, (store.add r d).answer = .refused (.rejected text)) ↔
      d.closed = false ∧ r.duration.toInt < 0 := by
  rw [Server.Checks] at h
  rw [rejected_iff, h, Record.meetsCheck_eq, decide_eq_false_iff_not, Int.not_le]

end Database

namespace Record

/-- When a record has a negative duration. Those that can be made are the records with a duration from
zero to the longest age, and the record of a call is one of them. One that is read has the number that
stands in its text, whatever its sign, and there is a text for every record. A store whose server holds
to the check of the table rejects the records with a negative duration and no others, as long as its
pool is open. -/
theorem durations_made_and_read (r : Record) :
    (r.IsMade ↔ 0 ≤ r.duration.toInt ∧ r.duration.toInt ≤ 9223372036854775) ∧
      (∀ (call : CallInfo) (kind : CallKind), ofCall call kind = r → r.IsMade) ∧
      (∀ s, parse? s = some r → ∃ v others, Json.parse? s = some v ∧
        v.fields? fieldNames = some (others ++ [some (.ofInt r.duration.toInt)])) ∧
      (∃ s, parse? s = some r) ∧
      ∀ d : Database, d.server.Checks r →
        ((∃ text, (Database.store.add r d).answer = .refused (.rejected text)) ↔
          d.closed = false ∧ r.duration.toInt < 0) := by
  refine ⟨r.isMade_iff, fun call kind hcall => hcall ▸ isMade_ofCall call kind,
    fun s => spelled_duration, ⟨r.print ++ [], ?_⟩, fun d => Database.rejected_iff_neg⟩
  exact parse?_print r nofun

/-- A record of an age before its start is made with no duration and is not rejected; one with a
negative duration, read from an array, is. -/
theorem durations_made_and_read_negative :
    let made := make none (some "6") .allowed .missed 0 (-2500)
    let read : Record := ⟨none, some "5", .allowed, .missed, 0, -2⟩
    let refused : ServerFault := .refuse ServerFault.checkViolation "violates a check"
    let d : Database := {
      server := { onInsert := fun number => if number = some "5" then some refused else none }
      supply := ⟨Uuid.ofNat, fun _ => default, 0⟩ }
    made.IsMade ∧ made.duration = 0 ∧
      (¬∃ text, (Database.store.add made d).answer = .refused (.rejected text)) ∧
      parse? "[null, \"5\", \"allowed\", \"missed\", 0, -2]".toList = some read ∧ ¬read.IsMade ∧
      ∃ text, (Database.store.add read d).answer = .refused (.rejected text) := by
  intro made read refused d
  obtain ⟨hmade, -, -, -, hrejected⟩ := durations_made_and_read made
  obtain ⟨hread, -, -, -, hrejected'⟩ := durations_made_and_read read
  have hchecks : d.server.Checks made := by
    refine iff_of_false ?_ (by decide)
    simp [d, made, make]
  have hchecks' : d.server.Checks read := iff_of_true ⟨_, rfl⟩ (by decide)
  refine ⟨hmade.mpr (by decide), by decide, ?_, by decide +kernel, ?_, ?_⟩
  · rw [hrejected d hchecks]
    decide
  · rw [hread]
    decide
  · rw [hrejected' d hchecks']
    decide

/-- A text with a negative duration is read, and the table does not take what it says. -/
theorem negative_duration_read :
    let s := ("\x7b\"contact_info\":null,\"number\":null,\"presentation\":\"allowed\"," ++
      "\"call_type\":\"missed\",\"timestamp_millis\":0,\"duration_secs\":-1\x7d").toList
    ∃ r, parse? s = some r ∧ r.duration.toInt < 0 ∧ ¬r.IsMade ∧ r.meetsCheck = false := by
  intro s
  refine ⟨⟨none, none, .allowed, .missed, 0, -1⟩, by decide +kernel, by decide, ?_, by decide⟩
  rw [isMade_iff]
  decide

end Record
end CallHistory
