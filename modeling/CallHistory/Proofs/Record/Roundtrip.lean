import CallHistory.Proofs.Json.Members
import CallHistory.Record.Json

/-! # Written records are read

Reading gives a record back from its written form, whatever its texts and numbers are: a text that is
missing, one that is empty and one full of escapes are told apart. So to write a text anew changes
nothing about the record that it spells, and nothing is left to change in what has been written anew.
-/

namespace CallHistory

namespace Json

/-- A name is read as what it names, if it is the first to have that name. -/
theorem choice?_written_ofString {α : Type} {key : α → String} {all : List α} {a : α}
    (h : all.find? (key · = key a) = some a) :
    choice? key all (ofString (key a)).written = some a := by
  simpa [ofString, written, choice?] using h

end Json

@[simp] theorem CallKind.choice?_written (kind : CallKind) :
    Json.choice? CallKind.key CallKind.all (Json.ofString kind.key).written = some kind :=
  Json.choice?_written_ofString (by cases kind <;> decide)

@[simp] theorem Presentation.choice?_written (presentation : Presentation) :
    Json.choice? Presentation.key Presentation.all (Json.ofString presentation.key).written =
      some presentation :=
  Json.choice?_written_ofString (by cases presentation <;> decide)

namespace Contact

theorem ofJson?_written (c : Contact) : ofJson? c.toJson.written = some c := by
  have hfields := @Json.fields?_written
    [("name", .ofString? c.name), ("number_label", .ofString? c.label)]
    (by simp only [List.map_cons, List.map_nil]; decide)
  simp only [List.map_cons, List.map_nil] at hfields
  rw [ofJson?, toJson, hfields]
  simp

/-- No contact is told from a contact without a name and a label. -/
@[simp] theorem optional?_written (contact : Option Contact) :
    Json.optional? ofJson? (some (contact.elim .null toJson).written) = some contact := by
  cases contact with
  | none => rfl
  | some c =>
    have hread := ofJson?_written c
    change (ofJson? c.toJson.written).map some = _
    rw [hread]
    rfl

end Contact

namespace Record

theorem ofJson?_written (r : Record) : ofJson? r.toJson.written = some r := by
  have hfields := @Json.fields?_written [
    ("contact_info", r.contact.elim .null Contact.toJson), ("number", .ofString? r.number),
    ("presentation", .ofString r.presentation.key), ("call_type", .ofString r.kind.key),
    ("timestamp_millis", .ofInt r.start.toInt), ("duration_secs", .ofInt r.duration.toInt)]
    (by simp only [List.map_cons, List.map_nil]; decide)
  simp only [List.map_cons, List.map_nil] at hfields
  rw [ofJson?, toJson]
  simp [fieldNames, hfields, Json.required?]

theorem parse?_print (r : Record) {space : List Char} (hspace : ∀ c ∈ space, Json.isSpace c) :
    parse? (r.print ++ space) = some r := by
  rw [parse?, print, Json.parse?_print r.toJson hspace, Option.bind_some, ofJson?_written]

def rewrite? (s : List Char) : Option (List Char) :=
  (parse? s).map print

/-- Reading undoes writing. A text that is written anew spells the same record as before, and is then
in the one form that writing it once more gives again. -/
theorem record_survives_writing (r : Record) :
    parse? r.print = some r ∧
      ∀ s t, rewrite? s = some t → parse? t = parse? s ∧ rewrite? t = some t := by
  have hback (r : Record) : parse? r.print = some r := by
    have hread := @parse?_print r [] nofun
    rwa [List.append_nil] at hread
  refine ⟨hback r, fun s t hst => ?_⟩
  obtain ⟨read, hs, rfl⟩ := Option.map_eq_some_iff.mp hst
  refine ⟨(hback read).trans hs.symm, ?_⟩
  rw [rewrite?, hback read, Option.map_some]

theorem record_survives_writing_respelled :
    let r : Record := ⟨some ⟨some "", none⟩, some "\"😀\x00", .payphone, .missed, Int64.minValue, -1⟩
    let s := "[[\"\", null], \"\\\"\\uD83d\\ude00\\u0000\", \"payphone\",".toList ++
      "\n\x7b\"missed\": null\x7d, -9223372036854775808, -1]".toList
    parse? r.print = some r ∧ rewrite? s = some r.print ∧
      parse? r.print = parse? s ∧ rewrite? r.print = some r.print := by
  intro r s
  have hs : rewrite? s = some r.print := by decide +kernel
  obtain ⟨hread, hkept⟩ := record_survives_writing r
  exact ⟨hread, hs, hkept s r.print hs⟩

end Record
end CallHistory
