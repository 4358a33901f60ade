import CallHistory.Proofs.Json.Members
import CallHistory.Proofs.Time.Roundtrip
import CallHistory.Store.Line

/-! # Written lines are read

A line of the history file has neither a line feed nor a carriage return in it, and reading gives it
back, whatever text its number is.
-/

namespace CallHistory

namespace Uuid

theorem mapM_digit?_char (ds : List (Fin 16)) :
    (ds.map Text.Hex.char).mapM Text.Hex.digit? = some ds := by
  induction ds with
  | nil => rfl
  | cons d ds ih => simp [ih]

theorem ofHyphenated?_groups {a b c d e : List Char} (ha : a.length = 8) (hb : b.length = 4)
    (hc : c.length = 4) (hd : d.length = 4) (he : e.length = 12) :
    ofHyphenated? (a ++ '-' :: b ++ '-' :: c ++ '-' :: d ++ '-' :: e) =
      ofPlain? (a ++ b ++ c ++ d ++ e) := by
  simp (disch := omega) [ofHyphenated?, List.getElem?_append_right, List.getElem?_cons_zero,
    List.drop_append, List.drop_eq_nil_of_le, ha, hb, hc, hd, he]

theorem unwrap_char (d : Fin 16) (s : List Char) :
    unwrap (Text.Hex.char d :: s) = Text.Hex.char d :: s := by
  have hletter : (Text.Hex.char d).toLower ≠ 'u' := by revert d; decide
  have hbrace : Text.Hex.char d ≠ '\x7b' := by revert d; decide
  simp [unwrap, hletter, hbrace]

theorem groups_append (c : List Char) : c.take 8 ++ (c.drop 8).take 4 ++ (c.drop 12).take 4 ++
    (c.drop 16).take 4 ++ c.drop 20 = c := by
  rw [← List.take_add, ← List.take_add, ← List.take_add]
  exact List.take_append_drop 20 c

theorem parse?_text (u : Uuid) : parse? u.text = some u := by
  have hlength : (u.digits.map Text.Hex.char).length = 32 := by
    rw [List.length_map, u.length_digits]
  have hunwrap : unwrap u.text = u.text := by
    obtain ⟨d, ds, hds⟩ := List.exists_cons_of_length_pos (l := u.digits) (by simp [u.length_digits])
    simp only [text, hds]
    exact unwrap_char d _
  have htext : u.text.length = 36 := by
    simp [text, u.length_digits]
  rw [parse?, if_neg (by rw [htext]; decide), hunwrap, text]
  rw [ofHyphenated?_groups (by simp [u.length_digits]) (by simp [u.length_digits])
    (by simp [u.length_digits]) (by simp [u.length_digits]) (by simp [u.length_digits]),
    groups_append, ofPlain?, mapM_digit?_char, Option.bind_some, ofDigits?, dif_pos u.length_digits]

end Uuid

namespace Line

@[simp] theorem uuidOfJson?_written (u : Uuid) :
    uuidOfJson? (Json.string (Json.Piece.ofText u.text)).written = some u := by
  simp [uuidOfJson?, Uuid.parse?_text]

@[simp] theorem stampOfJson?_written (t : Stamp) :
    stampOfJson? (Json.string (Json.Piece.ofText t.print)).written = some t := by
  simp [stampOfJson?, Stamp.parse?_print]

theorem ofJson?_written (l : Line) : ofJson? l.toJson.written = some l := by
  have hfields := @Json.fields?_written [
    ("id", .string (Json.Piece.ofText l.id.text)), ("number", .ofString? l.number),
    ("presentation", .ofInt l.presentation.toInt), ("type", .ofInt l.kind.toInt),
    ("date", .ofInt l.date.toInt), ("duration", .ofInt l.duration.toInt),
    ("written_at", .string (Json.Piece.ofText l.written.print))]
    (by simp only [List.map_cons, List.map_nil]; decide)
  rw [ofJson?, toJson]
  simp only [List.map_cons, List.map_nil] at hfields
  simp [fieldNames, hfields, Json.required?]

theorem parse?_print (l : Line) {space : List Char} (hspace : ∀ c ∈ space, Json.isSpace c) :
    parse? (l.print ++ space) = some l := by
  rw [parse?, print, Json.parse?_print l.toJson hspace, Option.bind_some, ofJson?_written]

/-- A line does not end before its end. -/
theorem plain_print (l : Line) : ∀ c ∈ l.print, c ≠ '\n' ∧ c ≠ '\r' := by
  intro c hc
  have hplain := Json.plain_print l.toJson c hc
  constructor
  · rintro rfl
    exact absurd hplain (by decide)
  · rintro rfl
    exact absurd hplain (by decide)

end Line
end CallHistory
