import CallHistory.Proofs.Store.ByName
import CallHistory.Proofs.Store.Ids
import CallHistory.Proofs.Time.Texts

/-! # Reading makes a line canonical

However a text spells a line, in whatever order of its members or as an array, the line is written in
one way: with its id in lower case and with hyphens, with the instant of its stamp in universal time,
and with the rest as it was.
-/

namespace CallHistory.Line

/-- The values of the fields of a line as a text has them, escapes aside. -/
def fieldsOf? (s : List Char) : Option (List (Option Json)) :=
  (Json.parse? s).bind fun v => (v.fields? fieldNames).map (List.map (Option.map Json.plain))

def rewrite? (s : List Char) : Option (List Char) :=
  (parse? s).map print

theorem exists_said {s : List Char} {l : Line} (h : parse? s = some l) :
    ∃ id number written, fieldsOf? s = some (l.said id number written) ∧
      Uuid.parse? id = some l.id ∧ number.getD .null = .ofString? l.number ∧
      Stamp.parse? written = some l.written := by
  obtain ⟨v, hv, hl⟩ := Option.bind_eq_some_iff.mp h
  rw [ofJson?_eq_bind] at hl
  obtain ⟨fs, hfs, hl⟩ := Option.bind_eq_some_iff.mp hl
  obtain ⟨id, number, presentation, kind, date, duration, written, rfl, hid, hnumber, hpresentation,
    hkind, hdate, hduration, hwritten⟩ := exists_fields hl
  obtain ⟨idText, hidText, hid⟩ := Option.bind_eq_some_iff.mp hid
  obtain ⟨stampText, hstampText, hwritten⟩ := Option.bind_eq_some_iff.mp hwritten
  obtain rfl := Json.eq_ofInt_of_toInt32? hpresentation
  obtain rfl := Json.eq_ofInt_of_toInt32? hkind
  obtain rfl := Json.eq_ofInt_of_toInt64? hdate
  obtain rfl := Json.eq_ofInt_of_toInt64? hduration
  refine ⟨idText.toList, number.map Json.plain, stampText.toList, ?_, hid,
    Json.plain_of_optional? hnumber, hwritten⟩
  rw [fieldsOf?, hv, Option.bind_some, hfs, Option.map_some]
  simp only [List.map_cons, List.map_nil, Option.map_some, Json.plain_of_toString? hidText,
    Json.plain_of_toString? hstampText]
  rfl

theorem fieldsOf?_print (l : Line) : fieldsOf? l.print =
    some (l.said l.id.text (some (.ofString? l.number)) l.written.print) := by
  have hread := @Json.parse?_print l.toJson [] (List.forall_mem_nil _)
  rw [List.append_nil] at hread
  have hfields := @Json.fields?_written l.members
    (by simp only [members, List.map_cons, List.map_nil]; decide)
  have htext (s : List Char) : (Json.string (Json.Piece.ofText s)).written.plain =
      .string (Json.Piece.ofText s) := by
    simp [Json.written, Json.plain]
  have hnumber : (Json.ofString? l.number).written.plain = .ofString? l.number := by
    cases l.number with
    | none => rfl
    | some s => exact htext s.toList
  have hint (n : Int) : (Json.ofInt n).written.plain = .ofInt n := rfl
  have hnames : fieldNames = l.members.map Prod.fst := rfl
  rw [fieldsOf?, print, hread, Option.bind_some, toJson_eq_ofMembers, hnames, hfields]
  simp [members, said, htext, hnumber, hint]

/-- Reading a line and writing it gives one text for all the spellings of the line. Its id has
hyphens and lower case; its stamp is in universal time, with no, three, six or nine digits, and is the
same instant in whole nanoseconds, of which up to nine digits lose nothing; the rest is unchanged. -/
theorem reading_makes_canonical {s : List Char} {l : Line} (h : parse? s = some l) :
    parse? l.print = some l ∧ rewrite? l.print = some l.print ∧
      ∃ id number written fields,
        fieldsOf? s = some (l.said id number written) ∧
        fieldsOf? l.print = some (l.said l.id.text (some (.ofString? l.number)) l.written.print) ∧
        l.id.IsSpelling id ∧ Uuid.IsHyphenated l.id.text ∧
        number.getD .null = .ofString? l.number ∧
        Stamp.read? written = some fields ∧ Stamp.read? l.written.print = some l.written.toLocal ∧
        l.written.print = l.written.toLocal.text 'T' ['Z'] ∧
        l.written.toLocal.fraction.digits.length ∈ [0, 3, 6, 9] ∧
        l.written.toLocal.seconds * 1000000000 = ⌊fields.seconds * 1000000000⌋ ∧
        (fields.fraction.digits.length ≤ 9 → l.written.toLocal.seconds = fields.seconds) := by
  have hback : parse? l.print = some l := by
    have hprint := @parse?_print l [] (List.forall_mem_nil _)
    rwa [List.append_nil] at hprint
  obtain ⟨id, number, written, hsaid, hid, hnumber, hwritten⟩ := exists_said h
  obtain ⟨fields, hfields, hfloor, hexact⟩ := Stamp.exists_read hwritten
  refine ⟨hback, by rw [rewrite?, hback, Option.map_some], id, number, written, fields, hsaid,
    fieldsOf?_print l, Uuid.isSpelling_of_parse? hid, Uuid.isHyphenated_text l.id, hnumber, hfields,
    Stamp.read?_print l.written, Stamp.print_eq_text l.written,
    (Stamp.Fraction.ofNanos_spec l.written.nanos.isLt).1, ?_, fun hfew => ?_⟩
  · rw [Stamp.seconds_toLocal, hfloor]
  · have hnanos := hexact hfew
    rw [← Stamp.seconds_toLocal] at hnanos
    linarith

theorem reading_makes_canonical_leap_day :
    let s := "[\"\x7b00000000-0000-0000-0000-0000000000A1\x7d\", null, 1, 3, -1, 5,".toList ++
      "\"2024-03-01t0:30:00.1234567899+01:00\"]".toList
    let l : Line := ⟨.ofNat 0xa1, none, 1, 3, -1, 5,
      ⟨⟨2024, 2, 29, by decide⟩, 23, 30, 0, 123456789⟩⟩
    parse? s = some l ∧ parse? l.print = some l ∧ rewrite? l.print = some l.print ∧
      l.written.print = "2024-02-29T23:30:00.123456789Z".toList ∧
      ∃ written fields, Stamp.read? written = some fields ∧
        l.written.toLocal.seconds * 1000000000 = ⌊fields.seconds * 1000000000⌋ := by
  intro s l
  have hread : parse? s = some l := by decide +kernel
  obtain ⟨hback, hsame, -, -, written, fields, -, -, -, -, -, hfields, -, -, -, hfloor, -⟩ :=
    reading_makes_canonical hread
  exact ⟨hread, hback, hsame, by decide +kernel, written, fields, hfields, hfloor⟩

end CallHistory.Line
