import CallHistory.Proofs.Json.Grammar
import CallHistory.Proofs.Store.Line

/-! # Lines are read by name

The members of a line may come in any order, in any spelling, and among members of other names,
which are passed over whatever their values are. A missing number is none. Any other missing member,
or a member that comes twice, is no line.
-/

namespace CallHistory.Line

def members (l : Line) : List (String × Json) := [
  ("id", .string (Json.Piece.ofText l.id.text)),
  ("number", .ofString? l.number),
  ("presentation", .ofInt l.presentation.toInt),
  ("type", .ofInt l.kind.toInt),
  ("date", .ofInt l.date.toInt),
  ("duration", .ofInt l.duration.toInt),
  ("written_at", .string (Json.Piece.ofText l.written.print))]

theorem toJson_eq_ofMembers (l : Line) : l.toJson = .ofMembers l.members := rfl

/-- The members with the names of a line, as they are without escapes. -/
def known (members : List (String × Json)) : List (String × Json) :=
  (members.filter (·.1 ∈ fieldNames)).map fun m => (m.1, m.2.plain)

/-- Some members are those of a line, in any order and among others. -/
def Among (l : Line) (members : List (String × Json)) : Prop :=
  (known members).Perm l.members ∨
    l.number = none ∧ (known members).Perm (l.members.filter (·.1 ≠ "number"))

def ofFields? : List (Option Json) → Option Line
  | [id, number, presentation, kind, date, duration, written] => do
    return ⟨← Json.required? uuidOfJson? id,
      ← Json.optional? Json.toString? number,
      ← Json.required? Json.toInt32? presentation,
      ← Json.required? Json.toInt32? kind,
      ← Json.required? Json.toInt64? date,
      ← Json.required? Json.toInt64? duration,
      ← Json.required? stampOfJson? written⟩
  | _ => none

theorem ofFields?_of_length_ne {fs : List (Option Json)} (h : fs.length ≠ 7) :
    ofFields? fs = none := by
  unfold ofFields?
  split
  · exact absurd rfl h
  · rfl

theorem exists_of_length {fs : List (Option Json)} (h : fs.length = 7) :
    ∃ id number presentation kind date duration written,
      fs = [id, number, presentation, kind, date, duration, written] := by
  have hnext {n : Nat} {l : List (Option Json)} (hl : l.length = n + 1) :
      ∃ a rest, l = a :: rest ∧ rest.length = n := by
    obtain ⟨a, rest, rfl⟩ := List.exists_cons_of_length_eq_add_one hl
    exact ⟨a, rest, rfl, Nat.succ.inj hl⟩
  obtain ⟨id, fs, rfl, hsix⟩ := hnext h
  obtain ⟨number, fs, rfl, hfive⟩ := hnext hsix
  obtain ⟨presentation, fs, rfl, hfour⟩ := hnext hfive
  obtain ⟨kind, fs, rfl, hthree⟩ := hnext hfour
  obtain ⟨date, fs, rfl, htwo⟩ := hnext hthree
  obtain ⟨duration, fs, rfl, hone⟩ := hnext htwo
  obtain ⟨written, rfl⟩ := List.length_eq_one_iff.mp hone
  exact ⟨id, number, presentation, kind, date, duration, written, rfl⟩

theorem ofJson?_eq_bind (v : Json) : ofJson? v = (v.fields? fieldNames).bind ofFields? := by
  unfold ofJson?
  split
  · rename_i hfields
    rw [hfields]
    rfl
  · rename_i hother
    cases hfields : v.fields? fieldNames with
    | none => rfl
    | some fs =>
      refine (ofFields?_of_length_ne fun hlength => ?_).symm
      obtain ⟨id, number, presentation, kind, date, duration, written, rfl⟩ :=
        exists_of_length hlength
      exact hother _ _ _ _ _ _ _ hfields

theorem ofFields?_plain (fs : List (Option Json)) :
    ofFields? (fs.map (Option.map Json.plain)) = ofFields? fs := by
  have huuid (v : Json) : uuidOfJson? v.plain = uuidOfJson? v := by
    rw [uuidOfJson?, Json.toString?_plain, uuidOfJson?]
  have hstamp (v : Json) : stampOfJson? v.plain = stampOfJson? v := by
    rw [stampOfJson?, Json.toString?_plain, stampOfJson?]
  have h64 (v : Json) : v.plain.toInt64? = v.toInt64? := by
    rw [Json.toInt64?, Json.toIntWithin?_plain, Json.toInt64?]
  have h32 (v : Json) : v.plain.toInt32? = v.toInt32? := by
    rw [Json.toInt32?, Json.toIntWithin?_plain, Json.toInt32?]
  by_cases hlength : fs.length = 7
  · obtain ⟨id, number, presentation, kind, date, duration, written, rfl⟩ :=
      exists_of_length hlength
    simp only [List.map_cons, List.map_nil, ofFields?, Json.required?_plain huuid,
      Json.optional?_plain Json.toString?_plain, Json.required?_plain h32,
      Json.required?_plain h64, Json.required?_plain hstamp]
  · rw [ofFields?_of_length_ne hlength, ofFields?_of_length_ne (by rwa [List.length_map])]

theorem exists_fields {fs : List (Option Json)} {l : Line} (h : ofFields? fs = some l) :
    ∃ id number presentation kind date duration written,
      fs = [some id, number, some presentation, some kind, some date, some duration, some written] ∧
      uuidOfJson? id = some l.id ∧ Json.optional? Json.toString? number = some l.number ∧
      presentation.toInt32? = some l.presentation ∧ kind.toInt32? = some l.kind ∧
      date.toInt64? = some l.date ∧ duration.toInt64? = some l.duration ∧
      stampOfJson? written = some l.written := by
  unfold ofFields? at h
  split at h
  · simp only [Option.bind_eq_bind, Option.bind_eq_some_iff, Json.required?] at h
    obtain ⟨_, ⟨id, rfl, hid⟩, _, hnumber, _, ⟨presentation, rfl, hpresentation⟩, _,
      ⟨kind, rfl, hkind⟩, _, ⟨date, rfl, hdate⟩, _, ⟨duration, rfl, hduration⟩, _,
      ⟨written, rfl, hwritten⟩, hl⟩ := h
    cases hl
    exact ⟨id, _, presentation, kind, date, duration, written, rfl, hid, hnumber, hpresentation,
      hkind, hdate, hduration, hwritten⟩
  · cases h

/-- The fields of a line, with its id, its number and its stamp as a text has them. -/
def said (l : Line) (id : List Char) (number : Option Json) (written : List Char) :
    List (Option Json) :=
  [some (.string (Json.Piece.ofText id)), number, some (.ofInt l.presentation.toInt),
    some (.ofInt l.kind.toInt), some (.ofInt l.date.toInt), some (.ofInt l.duration.toInt),
    some (.string (Json.Piece.ofText written))]

theorem ofFields?_said (l : Line) {number : Option Json}
    (hnumber : Json.optional? Json.toString? number = some l.number) :
    ofFields? (l.said l.id.text number l.written.print) = some l := by
  have h64 (n : Int64) : (Json.ofInt n.toInt).toInt64? = some n := Json.toInt64?_written_ofInt n
  have h32 (n : Int32) : (Json.ofInt n.toInt).toInt32? = some n := Json.toInt32?_written_ofInt n
  simp [said, ofFields?, Json.required?, uuidOfJson?, stampOfJson?, Json.toString?,
    Uuid.parse?_text, Stamp.parse?_print, hnumber, h64, h32]

/-- A line that has been read has one value of each of its names, but perhaps none of a number. -/
theorem exists_value {named : List (String × Json)} {l : Line}
    (h : (fieldNames.mapM (Json.unique? named)).bind ofFields? = some l) {name : String}
    (hname : name ∈ fieldNames) :
    ∃ value, Json.unique? named name = some value ∧ (name ≠ "number" → value ≠ none) := by
  obtain ⟨fs, hfs, hl⟩ := Option.bind_eq_some_iff.mp h
  obtain ⟨id, number, presentation, kind, date, duration, written, rfl, -⟩ := exists_fields hl
  obtain ⟨hid, hnumber, hpresentation, hkind, hdate, hduration, hwritten⟩ :
      Json.unique? named "id" = some (some id) ∧ Json.unique? named "number" = some number ∧
      Json.unique? named "presentation" = some (some presentation) ∧
      Json.unique? named "type" = some (some kind) ∧ Json.unique? named "date" = some (some date) ∧
      Json.unique? named "duration" = some (some duration) ∧
      Json.unique? named "written_at" = some (some written) := by
    simpa [fieldNames, Option.bind_eq_some_iff] using hfs
  simp only [fieldNames, List.mem_cons, List.not_mem_nil, or_false] at hname
  rcases hname with rfl | rfl | rfl | rfl | rfl | rfl | rfl
  · exact ⟨_, hid, fun _ => Option.some_ne_none id⟩
  · exact ⟨_, hnumber, fun hne => absurd rfl hne⟩
  · exact ⟨_, hpresentation, fun _ => Option.some_ne_none presentation⟩
  · exact ⟨_, hkind, fun _ => Option.some_ne_none kind⟩
  · exact ⟨_, hdate, fun _ => Option.some_ne_none date⟩
  · exact ⟨_, hduration, fun _ => Option.some_ne_none duration⟩
  · exact ⟨_, hwritten, fun _ => Option.some_ne_none written⟩

theorem unique?_known {name : String} (hname : name ∈ fieldNames) (named : List (String × Json)) :
    Json.unique? (known named) name = (Json.unique? named name).map (Option.map Json.plain) := by
  have hvalues : Json.valuesOf name (known named) = (Json.valuesOf name named).map Json.plain := by
    induction named with
    | nil => rfl
    | cons m rest ih =>
      by_cases hm : m.1 = name
      · simpa [known, Json.valuesOf, hm, hname] using ih
      · by_cases hknown : m.1 ∈ fieldNames
        · simpa [known, Json.valuesOf, hm, hknown] using ih
        · simpa [known, Json.valuesOf, hm, hknown] using ih
  rw [Json.unique?, Json.unique?, hvalues]
  rcases Json.valuesOf name named with - | ⟨v, - | ⟨w, rest⟩⟩ <;> rfl

/-- Only the members with the names of a line matter, and not their order. -/
theorem ofFields?_of_perm {named own : List (String × Json)} (h : (known named).Perm own) :
    (fieldNames.mapM (Json.unique? named)).bind ofFields? =
      (fieldNames.mapM (Json.unique? own)).bind ofFields? := by
  have hfound (names : List String) (hnames : ∀ name ∈ names, name ∈ fieldNames) :
      names.mapM (Json.unique? own) =
        (names.mapM (Json.unique? named)).map (List.map (Option.map Json.plain)) := by
    induction names with
    | nil => rfl
    | cons name names ih =>
      obtain ⟨hname, hnames⟩ := List.forall_mem_cons.mp hnames
      rw [List.mapM_cons, List.mapM_cons, ih hnames, ← Json.unique?_perm h, unique?_known hname]
      cases Json.unique? named name with
      | none => rfl
      | some value =>
        cases names.mapM (Json.unique? named) with
        | none => rfl
        | some values => rfl
  rw [hfound fieldNames fun _ h => h, Option.bind_map]
  exact congrArg _ (funext fun fs => (ofFields?_plain fs).symm)

theorem ofFields?_of_among {l : Line} {named : List (String × Json)} (h : Among l named) :
    (fieldNames.mapM (Json.unique? named)).bind ofFields? = some l := by
  rcases h with hall | ⟨hnumber, hothers⟩
  · rw [ofFields?_of_perm hall]
    have hfields : fieldNames.mapM (Json.unique? l.members) =
        some (l.members.map fun m => some m.2) := by
      simp [fieldNames, members, Json.unique?, Json.valuesOf]
    have hnumber : Json.optional? Json.toString? (some (.ofString? l.number)) = some l.number := by
      cases l.number with
      | none => rfl
      | some s => simp [Json.ofString?, Json.ofString, Json.optional?, Json.toString?]
    rw [hfields]
    exact ofFields?_said l hnumber
  · rw [ofFields?_of_perm hothers]
    have hfields : fieldNames.mapM (Json.unique? (l.members.filter (·.1 ≠ "number"))) =
        some (l.members.map fun m => if m.1 = "number" then none else some m.2) := by
      simp [fieldNames, members, Json.unique?, Json.valuesOf]
    rw [hfields]
    exact ofFields?_said l (by rw [hnumber]; rfl)

/-- A line is read from its members by name: in any order, with any space, in any spelling and among
members of other names, and without the number if there is none. An object with a name of a line
twice, or without one of the other six, is no line. -/
theorem members_read_by_name {text : List Char} {members : List (List Json.Piece × Json)}
    (htext : Json.SpellsText text (.object members)) :
    (∀ l named, Json.named? members = some named → Among l named → parse? text = some l) ∧
      (∀ name ∈ fieldNames, 2 ≤ Json.countName name members → parse? text = none) ∧
      ∀ name ∈ fieldNames, name ≠ "number" → Json.countName name members = 0 →
        parse? text = none := by
  have hparse : parse? text = (Json.named? members).bind fun named =>
      (fieldNames.mapM (Json.unique? named)).bind ofFields? := by
    rw [parse?, htext.parse?, Option.bind_some, ofJson?_eq_bind, Json.fields?, Option.bind_assoc]
  have hcount {l : Line} (hl : parse? text = some l) {name : String} (hname : name ∈ fieldNames) :
      Json.countName name members ≤ 1 ∧ (name ≠ "number" → Json.countName name members ≠ 0) := by
    rw [hparse] at hl
    obtain ⟨named, hnamed, hl⟩ := Option.bind_eq_some_iff.mp hl
    obtain ⟨value, hvalue, hsome⟩ := exists_value hl hname
    rw [← Json.length_valuesOf hnamed, Json.unique?_eq_some_iff.mp hvalue]
    cases value with
    | none => exact ⟨Nat.zero_le 1, fun hne => absurd rfl (hsome hne)⟩
    | some v => exact ⟨Nat.le_refl 1, fun _ => Nat.one_ne_zero⟩
  refine ⟨fun l named hnamed hamong => ?_, fun name hname htwice => ?_,
    fun name hname hne hmissing => ?_⟩
  · rw [hparse, hnamed, Option.bind_some, ofFields?_of_among hamong]
  · refine Option.eq_none_iff_forall_ne_some.mpr fun l hl => ?_
    have honce := (hcount hl hname).1
    omega
  · exact Option.eq_none_iff_forall_ne_some.mpr fun l hl => (hcount hl hname).2 hne hmissing

open Json in
theorem members_read_by_name_reordered :
    let l : Line := ⟨.ofNat 0xa1, none, 1, 3, -1, 5, default⟩
    let text := " \x7b\"written_at\":\"1970-01-01T00:00:00Z\",\"duration\":5,\"date\":-1,".toList ++
      "\"more\":[\x7b\"id\":\"\\uD800\"\x7d, 0.5E+2 ],\"type\": 3,\n\"presentation\":1,".toList ++
      "\"\\u0069d\":\"00000000-0000-0000-0000-0000000000a1\"\x7d\n".toList
    parse? text = some l ∧ parse? "\x7b\"type\":3,\"type\":3\x7d".toList = none ∧
      parse? "\x7b\x7d".toList = none := by
  intro l text
  have hnil : IsBlank [] := List.forall_mem_nil _
  have hspace : IsBlank [' '] := List.forall_mem_singleton.mpr rfl
  have hbreak : IsBlank ['\n'] := List.forall_mem_singleton.mpr rfl
  have hstring (s : String)
      (h : (s.toList.all fun c => c ≠ '"' ∧ c ≠ '\\' ∧ 0x20 ≤ c.toNat) = true) :
      Piece.SpellsAll s.toList (Piece.ofText s.toList) :=
    Piece.spellsAll_ofText (by simpa using h)
  have hone {d : Char} (h : d.isDigit = true) : IsDigits [d] :=
    ⟨List.cons_ne_nil d [], List.forall_mem_singleton.mpr h⟩
  have hdigit (negative : Bool) (d : Char) (h : d.isDigit = true) :
      Spells ((if negative then ['-'] else []) ++ ([d] ++ []))
        (.value (.number ⟨negative, Text.Decimal.value [d], true⟩)) :=
    .number (.parts negative (hone h) (by simp) .absent .absent)
  have hthree := hdigit false '3' rfl
  have htype := hstring "type" rfl
  -- the last member first
  have hid := Spells.member hnil
    (.cons (@Piece.Spells.code "0069".toList _ rfl rfl) (hstring "d" rfl)) hnil hnil
    (.string (hstring "00000000-0000-0000-0000-0000000000a1" rfl)) hnil
  have hpresentation := Spells.members hbreak (hstring "presentation" rfl) hnil hnil
    (hdigit false '1' rfl) hnil hid
  have hkind := Spells.members hnil htype hnil hspace hthree hnil hpresentation
  have hhalf := Spells.member hnil (hstring "id" rfl) hnil hnil
    (.string (.cons (@Piece.Spells.code "D800".toList _ rfl rfl) .nil)) hnil
  have hpower := @Numeral.Spells.parts false ['0'] _ _ (hone rfl) (fun _ => rfl)
    (@IsFraction.point ['5'] (hone rfl))
    (@IsExponent.power 'E' ['+'] ['2'] (.inr rfl) (.inr (.inl rfl)) (hone rfl))
  have hmore := Spells.members hnil (hstring "more" rfl) hnil hnil
    (.array (.items hnil (.object hhalf) hnil (.item hspace (.number hpower) hspace))) hnil hkind
  have hdate := Spells.members hnil (hstring "date" rfl) hnil hnil (hdigit true '1' rfl)
    hnil hmore
  have hduration := Spells.members hnil (hstring "duration" rfl) hnil hnil
    (hdigit false '5' rfl) hnil hdate
  have hwritten := Spells.members hnil (hstring "written_at" rfl) hnil hnil
    (.string (hstring "1970-01-01T00:00:00Z" rfl)) hnil hduration
  have htext : SpellsText text _ := .spaced hspace (.object hwritten) hbreak
  have htwice := SpellsText.spaced hnil
    (.object (.members hnil htype hnil hnil hthree hnil (.member hnil htype hnil hnil hthree hnil)))
    hnil
  have hempty := SpellsText.spaced hnil (.emptyObject hnil) hnil
  have hread := (members_read_by_name htext).1 l
    (("written_at", string (Piece.ofText "1970-01-01T00:00:00Z".toList)) :: ("duration", ofInt 5) ::
      ("date", ofInt (-1)) :: ("more", _) :: ("type", ofInt 3) :: ("presentation", ofInt 1) ::
      [("id", string (Piece.ofText "00000000-0000-0000-0000-0000000000a1".toList))]) rfl
  refine ⟨hread (.inr ⟨rfl, ?_⟩),
    (members_read_by_name htwice).2.1 "type" (by decide) (by decide),
    (members_read_by_name hempty).2.2 "date" (by decide) (by decide) rfl⟩
  refine .trans (.of_eq ?_) (List.reverse_perm (l.members.filter (·.1 ≠ "number")))
  have huuid : l.id.text = "00000000-0000-0000-0000-0000000000a1".toList := by decide +kernel
  have hstamp : l.written.print = "1970-01-01T00:00:00Z".toList := by decide +kernel
  simp [known, fieldNames, plain, ofInt, members, huuid, hstamp]
  decide

end CallHistory.Line
