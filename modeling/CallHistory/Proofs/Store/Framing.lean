import Mathlib.Data.List.Forall2
import CallHistory.Proofs.Store.Disk
import CallHistory.Proofs.Store.Line
import CallHistory.Store.File

/-! # The history file is made of lines

Records are added to a file while the disk around it goes on changing, so that the file can be opened
at some times and not at others. Whatever the order of successes and failures, the file is what it
was at first with one line for each record that was stored, and from the line the record is read back.
-/

namespace CallHistory

def Record.withoutContact (r : Record) : Record := { r with contact := none }

namespace FileLog

variable {δ : Type}

/-- What may become of a file store: records are added, each with the reply that comes back, and in
between the disk changes in any way that leaves the text of the file alone. -/
inductive History (d : Disk δ) (text : String → δ → List Char) (f : FileLog δ) :
    List (Record × Reply) → FileLog δ → Prop
  | start : History d text f [] f
  | meanwhile {past : List (Record × Reply)} {g : FileLog δ} (disk : δ) :
      History d text f past g → text g.path disk = text g.path g.disk →
      History d text f past { g with disk }
  | add {past : List (Record × Reply)} {g : FileLog δ} (r : Record) :
      History d text f past g →
      History d text f (past ++ [(r, ((store d).add r g).answer)]) ((store d).add r g).state

def stored (past : List (Record × Reply)) : List (Record × EntryId) :=
  past.filterMap fun
    | (r, .stored entry) => some (r, entry)
    | _ => none

/-- A segment of the file is a single line, and that reads as an entry of the record. -/
def Holds (segment : List Char) (kept : Record × EntryId) : Prop :=
  ∃ line l, segment = line ++ ['\n'] ∧ (∀ c ∈ line, c ≠ '\n' ∧ c ≠ '\r') ∧
    Line.parse? line = some l ∧ Line.parse? segment = some l ∧
    l.id = kept.2.uuid ∧ l.number = kept.1.number ∧
    l.presentation.toInt = kept.1.presentation.code ∧ l.kind.toInt = kept.1.kind.code ∧
    l.date = kept.1.start ∧ l.duration = kept.1.duration

theorem toInt_ofInt_presentation (p : Presentation) : (Int32.ofInt p.code).toInt = p.code := by
  cases p <;> decide

theorem toInt_ofInt_kind (k : CallKind) : (Int32.ofInt k.code).toInt = k.code := by
  cases k <;> decide

theorem parse?_segment (entry : EntryId) (r : Record) (now : Stamp) :
    Line.parse? (segment entry r now) = some (Line.ofRecord entry r now) :=
  Line.parse?_print _ (List.all_eq_true.mp (by decide))

theorem holds_segment (entry : EntryId) (r : Record) (now : Stamp) :
    Holds (segment entry r now) (r, entry) := by
  have hline : Line.parse? (Line.ofRecord entry r now).print = some (Line.ofRecord entry r now) := by
    simpa using @Line.parse?_print (Line.ofRecord entry r now) [] (by simp)
  exact ⟨_, _, rfl, Line.plain_print _, hline, parse?_segment entry r now, rfl, rfl,
    toInt_ofInt_presentation r.presentation, toInt_ofInt_kind r.kind, rfl, rfl⟩

theorem eq_of_presentation_code {p q : Presentation} (h : p.code = q.code) : p = q := by
  revert h
  cases p <;> cases q <;> decide

theorem eq_of_kind_code {k l : CallKind} (h : k.code = l.code) : k = l := by
  revert h
  cases k <;> cases l <;> decide

/-- From its segment all of a record can be told but the contact. -/
theorem Holds.eq_but_contact {segment : List Char} {kept kept' : Record × EntryId}
    (h : Holds segment kept) (h' : Holds segment kept') :
    kept.1.withoutContact = kept'.1.withoutContact := by
  obtain ⟨-, l, -, -, -, hread, -, hnumber, hpresentation, hkind, hdate, hduration⟩ := h
  obtain ⟨-, l', -, -, -, hread', -, hnumber', hpresentation', hkind', hdate', hduration'⟩ := h'
  obtain rfl : l = l' := Option.some.inj (hread.symm.trans hread')
  have hp := eq_of_presentation_code (hpresentation.symm.trans hpresentation')
  have hk := eq_of_kind_code (hkind.symm.trans hkind')
  simp [Record.withoutContact, ← hnumber, ← hnumber', ← hdate, ← hdate', ← hduration, ← hduration', hp, hk]

theorem add_cases {d : Disk δ} {text : String → δ → List Char} (hd : d.Appends text) (r : Record)
    (f : FileLog δ) :
    (∃ cause, ((store d).add r f).answer = .refused cause ∧
      ((store d).add r f).state.disk = f.disk) ∨
    (((store d).add r f).answer = .stored f.supply.entry ∧
      text f.path ((store d).add r f).state.disk =
        text f.path f.disk ++ segment f.supply.entry r f.supply.now) := by
  cases happend : d.append f.path (segment f.supply.entry r f.supply.now) f.disk with
  | error e => exact .inl ⟨.io (f.path ++ ": " ++ e.message), by simp [store, add, happend]⟩
  | ok disk =>
    have htext := hd happend
    exact .inr (by simp [store, add, happend, htext])

theorem path_add (d : Disk δ) (r : Record) (f : FileLog δ) :
    ((store d).add r f).state.path = f.path := by
  simp only [store, add]
  split <;> rfl

theorem stored_append (past : List (Record × Reply)) (r : Record) (reply : Reply) :
    stored (past ++ [(r, reply)]) = stored past ++ stored [(r, reply)] :=
  List.filterMap_append

/-- Every history puts a segment behind the file for each record that was stored, and nothing else. -/
theorem History.segments {d : Disk δ} {text : String → δ → List Char} (hd : d.Appends text)
    {f g : FileLog δ} {past : List (Record × Reply)} (h : History d text f past g) :
    g.path = f.path ∧ ∃ segments : List (List Char),
      text g.path g.disk = text f.path f.disk ++ segments.flatten ∧
      List.Forall₂ Holds segments (stored past) := by
  induction h with
  | start => exact ⟨rfl, [], (List.append_nil _).symm, .nil⟩
  | meanwhile _ _ htext ih =>
    obtain ⟨hpath, segments, hsegments, hholds⟩ := ih
    exact ⟨hpath, segments, htext.trans hsegments, hholds⟩
  | @add past g r _ ih =>
    obtain ⟨hpath, segments, hsegments, hholds⟩ := ih
    refine ⟨(path_add d r g).trans hpath, ?_⟩
    rw [path_add, stored_append]
    rcases add_cases hd r g with ⟨cause, hanswer, hdisk⟩ | ⟨hanswer, htext⟩
    · refine ⟨segments, by rw [hdisk, hsegments], ?_⟩
      rw [hanswer]
      exact (List.append_nil (stored past)).symm ▸ hholds
    · refine ⟨segments ++ [segment g.supply.entry r g.supply.now], ?_, ?_⟩
      · rw [htext, hsegments, List.flatten_append, List.append_assoc]
        simp
      · rw [hanswer]
        exact List.rel_append hholds (.cons (holds_segment _ _ _) .nil)

/-- The file is what it was with a line for each record that was stored, in order, from which the
record is read back under the name of its entry; an add that fails leaves the disk alone, and records
that share a segment differ in the contact at most. -/
theorem file_holds_stored_records (d : Disk δ) (text : String → δ → List Char)
    (hd : d.Appends text) :
    (∀ {f g : FileLog δ} {past : List (Record × Reply)}, History d text f past g →
      ∃ segments : List (List Char), text g.path g.disk = text f.path f.disk ++ segments.flatten ∧
        List.Forall₂ Holds segments (stored past)) ∧
    (∀ (r : Record) (f : FileLog δ), (∀ entry, ((store d).add r f).answer ≠ .stored entry) →
      ((store d).add r f).state.disk = f.disk) ∧
    ∀ {segment : List Char} {kept kept' : Record × EntryId}, Holds segment kept →
      Holds segment kept' → kept.1.withoutContact = kept'.1.withoutContact := by
  refine ⟨fun h => (h.segments hd).2, fun r f hfails => ?_, Holds.eq_but_contact⟩
  rcases add_cases hd r f with ⟨cause, -, hdisk⟩ | ⟨hstored, -⟩
  · exact hdisk
  · exact absurd hstored (hfails _)

/-- A record whose number has quotes, a backslash, ends of lines and other control characters in it,
and whose times are at the ends of their range. -/
def strange : Record :=
  ⟨none, some "\"5\\5\"\r\n\x00\u2028𝄞", .payphone, .missed, Int64.minValue, Int64.maxValue⟩

def hidden : Record :=
  ⟨some ⟨some "Ann", none⟩, none, .restricted, .incoming, 0, 42⟩

def shutFile : FileLog Drive :=
  ⟨"calls.jsonl", ⟨some .notFolder, "not a line".toList⟩, ⟨Uuid.ofNat, fun _ => default, 0⟩⟩

theorem file_holds_stored_records_shut_and_opened :
    (∃ past g, History Drive.disk (fun _ d => d.text) shutFile past g ∧
      past.map Prod.fst = [hidden, strange, hidden, hidden] ∧
      stored past = [(strange, ⟨Uuid.ofNat 1⟩), (hidden, ⟨Uuid.ofNat 3⟩)] ∧
      ∃ segments : List (List Char), g.disk.text = "not a line".toList ++ segments.flatten ∧
        List.Forall₂ Holds segments (stored past)) ∧
    ((store Drive.disk).add hidden shutFile).state.disk = shutFile.disk ∧
    ∀ entry now, segment entry strange now ≠ segment entry hidden now := by
  obtain ⟨hframed, hfails, hdiffer⟩ := file_holds_stored_records Drive.disk _ Drive.appends
  have hshut : History Drive.disk (fun _ d => d.text) shutFile [] shutFile := .start
  have hopened := (hshut.add hidden).meanwhile ⟨none, shutFile.disk.text⟩ rfl
  have hshutAgain := (hopened.add strange).meanwhile ⟨some .isFolder, _⟩ rfl
  have hhistory := ((hshutAgain.add hidden).meanwhile ⟨none, _⟩ rfl).add hidden
  refine ⟨⟨_, _, hhistory, rfl, rfl, hframed hhistory⟩, hfails hidden shutFile ?_, ?_⟩
  · intro entry h
    cases h
  · intro entry now hsame
    have heq := hdiffer (holds_segment entry strange now) (hsame ▸ holds_segment entry hidden now)
    have hnumber : strange.withoutContact.number = hidden.withoutContact.number :=
      congrArg Record.number heq
    exact absurd hnumber (by decide)

end FileLog
end CallHistory
