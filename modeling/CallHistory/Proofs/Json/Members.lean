import CallHistory.Json.Fields
import CallHistory.Proofs.Json.Spelling
import CallHistory.Proofs.Json.Roundtrip

/-! # Written members are found

An object whose members have different names gives each of them back by its name, in whatever order
they come, and texts and whole numbers are read from their values, also after they have been written.
Escapes do not change what is read.
-/

namespace CallHistory.Json

theorem valuesOf_of_not_mem {name : String} {members : List (String × Json)}
    (h : name ∉ members.map Prod.fst) : valuesOf name members = [] := by
  have hnone : members.filter (·.1 = name) = [] := by
    rw [List.filter_eq_nil_iff]
    intro m hm hname
    exact h (List.mem_map.mpr ⟨m, hm, of_decide_eq_true hname⟩)
  rw [valuesOf, hnone, List.map_nil]

theorem unique?_of_nodup {members : List (String × Json)} (hnodup : (members.map Prod.fst).Nodup)
    {m : String × Json} (hm : m ∈ members) : unique? members m.1 = some (some m.2) := by
  have hvalues : valuesOf m.1 members = [m.2] := by
    induction members with
    | nil => cases hm
    | cons first rest ih =>
      rw [List.map_cons, List.nodup_cons] at hnodup
      rcases List.mem_cons.mp hm with rfl | hrest
      · have hnone := valuesOf_of_not_mem hnodup.1
        simpa [valuesOf] using hnone
      · have hne : first.1 ≠ m.1 := fun heq => hnodup.1 (heq ▸ List.mem_map_of_mem hrest)
        have hvalue := ih hnodup.2 hrest
        simpa [valuesOf, hne] using hvalue
  rw [unique?, hvalues]

theorem named?_writtenMembers (members : List (String × Json)) :
    named? (writtenMembers (members.map fun m => (Piece.ofText m.1.toList, m.2))) =
      some (members.map fun m => (m.1, m.2.written)) := by
  induction members with
  | nil => rfl
  | cons m rest ih =>
    rw [named?] at ih
    simp [named?, writtenMembers, ih]

theorem fields?_written {members : List (String × Json)}
    (hnodup : (members.map Prod.fst).Nodup) :
    (ofMembers members).written.fields? (members.map Prod.fst) =
      some (members.map fun m => some m.2.written) := by
  have hnodup' : ((members.map fun m => (m.1, m.2.written)).map Prod.fst).Nodup := by
    rw [List.map_map]
    exact hnodup
  have hfound (part : List (String × Json)) (hpart : part ⊆ members) :
      (part.map Prod.fst).mapM (unique? (members.map fun m => (m.1, m.2.written))) =
        some (part.map fun m => some m.2.written) := by
    induction part with
    | nil => rfl
    | cons m rest ih =>
      have hm := hpart List.mem_cons_self
      have hfirst := unique?_of_nodup hnodup' (List.mem_map_of_mem hm)
      have hrest := ih fun x hx => hpart (List.mem_cons_of_mem m hx)
      simp only at hfirst
      simp [hfirst, hrest]
  have hnames := named?_writtenMembers members
  simp only [ofMembers, written, fields?, hnames, Option.bind_some]
  exact hfound members fun _ hm => hm

/-- The order of members does not matter. -/
theorem unique?_perm {members others : List (String × Json)} (h : members.Perm others)
    (name : String) : unique? members name = unique? others name := by
  have hvalues : (valuesOf name members).Perm (valuesOf name others) := (h.filter _).map _
  rw [unique?, unique?]
  generalize valuesOf name members = vs at hvalues ⊢
  generalize valuesOf name others = ws at hvalues ⊢
  match vs, ws, hvalues.length_eq with
  | [], [], _ => rfl
  | [v], [w], _ => rw [List.perm_singleton.mp hvalues]
  | _ :: _ :: _, _ :: _ :: _, _ => rfl

theorem unique?_eq_some_iff {members : List (String × Json)} {name : String} {value : Option Json} :
    unique? members name = some value ↔ valuesOf name members = value.toList := by
  unfold unique?
  split
  · rename_i hnone
    cases value <;> simp [hnone]
  · rename_i v hone
    cases value <;> simp [hone]
  · rename_i hnone hone
    refine iff_of_false nofun fun hvalue => ?_
    cases value with
    | none => exact hnone hvalue
    | some v => exact hone v hvalue

/-- How many members have a name, however it is spelled. -/
def countName (name : String) (members : List (List Piece × Json)) : Nat :=
  members.countP fun m => decode? m.1 = some name.toList

theorem length_valuesOf {members : List (List Piece × Json)} {named : List (String × Json)}
    (h : named? members = some named) (name : String) :
    (valuesOf name named).length = countName name members := by
  induction members generalizing named with
  | nil =>
    cases h
    rfl
  | cons m rest ih =>
    simp only [named?, List.mapM_cons, Option.bind_eq_bind, Option.bind_eq_some_iff,
      Option.map_eq_some_iff] at h
    obtain ⟨-, ⟨first, hfirst, rfl⟩, others, hothers, hnamed⟩ := h
    cases hnamed
    have hname : String.ofList first = name ↔ decode? m.1 = some name.toList := by
      rw [hfirst, Option.some_inj, ← String.toList_inj, String.toList_ofList]
    have hrest := ih hothers
    rw [countName] at hrest ⊢
    rw [List.countP_cons, ← hrest]
    by_cases h : decode? m.1 = some name.toList
    · simp [valuesOf, h, hname.mpr h]
    · simp [valuesOf, h, mt hname.mp h]

section Values

@[simp] theorem toString?_written_ofText (s : List Char) :
    (written (string (Piece.ofText s))).toString? = some (String.ofList s) := by
  simp [written, toString?]

@[simp] theorem optional?_written_ofString? (s : Option String) :
    optional? toString? (some (ofString? s).written) = some s := by
  cases s with
  | none => rfl
  | some s => simp [ofString?, ofString, optional?, written, toString?]

theorem toIntWithin?_ofInt {low high n : Int} (hlow : low ≤ n) (hhigh : n ≤ high) :
    (ofInt n).toIntWithin? low high = some n := by
  have hn : (⟨n < 0, n.natAbs, true⟩ : Numeral).toInt? = some n := by
    by_cases hneg : n < 0
    · have hzero : n.natAbs ≠ 0 := by omega
      have habs : -(n.natAbs : Int) = n := by omega
      rw [Numeral.toInt?, if_neg (by simp), if_pos (decide_eq_true hneg), if_neg hzero, habs]
    · have habs : (n.natAbs : Int) = n := by omega
      rw [Numeral.toInt?, if_neg (by simp), if_neg (by simpa using hneg), habs]
  simp [ofInt, toIntWithin?, hn, hlow, hhigh]

@[simp] theorem toInt64?_written_ofInt (n : Int64) : (ofInt n.toInt).written.toInt64? = some n := by
  have hread := toIntWithin?_ofInt n.minValue_le_toInt n.toInt_le
  change (toIntWithin? _ _ (ofInt n.toInt)).map _ = _
  rw [hread, Option.map_some, Int64.ofInt_toInt]

@[simp] theorem toInt32?_written_ofInt (n : Int32) : (ofInt n.toInt).written.toInt32? = some n := by
  have hread := toIntWithin?_ofInt n.minValue_le_toInt n.toInt_le
  change (toIntWithin? _ _ (ofInt n.toInt)).map _ = _
  rw [hread, Option.map_some, Int32.ofInt_toInt]

/-- A whole number has one spelling. -/
theorem eq_ofInt_of_toIntWithin? {v : Json} {low high i : Int}
    (h : v.toIntWithin? low high = some i) : v = .ofInt i ∧ low ≤ i ∧ i ≤ high := by
  cases v with
  | number n =>
    obtain ⟨j, hj, hwithin⟩ := Option.bind_eq_some_iff.mp h
    obtain ⟨hbounds, rfl⟩ : (low ≤ j ∧ j ≤ high) ∧ j = i := by simpa using hwithin
    refine ⟨?_, hbounds⟩
    rcases n with ⟨negative, whole, integral⟩
    cases integral with
    | false => cases hj
    | true =>
      cases negative with
      | false =>
        cases hj
        simp [ofInt]
      | true =>
        by_cases hzero : whole = 0
        · simp [Numeral.toInt?, hzero] at hj
        · have hj' : -(whole : Int) = j := by simpa [Numeral.toInt?, hzero] using hj
          subst hj'
          simp [ofInt]
          omega
  | _ => cases h

theorem eq_ofInt_of_toInt64? {v : Json} {n : Int64} (h : v.toInt64? = some n) :
    v = .ofInt n.toInt := by
  obtain ⟨i, hi, rfl⟩ := Option.map_eq_some_iff.mp h
  obtain ⟨rfl, hlow, hhigh⟩ := eq_ofInt_of_toIntWithin? hi
  rw [Int64.toInt_ofInt_of_le hlow (Int.lt_of_le_sub_one hhigh)]

theorem eq_ofInt_of_toInt32? {v : Json} {n : Int32} (h : v.toInt32? = some n) :
    v = .ofInt n.toInt := by
  obtain ⟨i, hi, rfl⟩ := Option.map_eq_some_iff.mp h
  obtain ⟨rfl, hlow, hhigh⟩ := eq_ofInt_of_toIntWithin? hi
  rw [Int32.toInt_ofInt_of_le hlow (Int.lt_of_le_sub_one hhigh)]

end Values

section Escapes

def plain : Json → Json
  | .string s => ((decode? s).map fun text => string (Piece.ofText text)).getD (.string s)
  | v => v

theorem toString?_plain (v : Json) : v.plain.toString? = v.toString? := by
  cases v with
  | string s =>
    cases hs : decode? s with
    | none => simp [plain, hs]
    | some text => simp [plain, toString?, hs]
  | _ => rfl

theorem toIntWithin?_plain (low high : Int) (v : Json) :
    v.plain.toIntWithin? low high = v.toIntWithin? low high := by
  cases v with
  | string s =>
    cases hs : decode? s with
    | none => simp [plain, hs]
    | some text => simp [plain, toIntWithin?, hs]
  | _ => rfl

/-- A reader that takes no notice of escapes. -/
theorem required?_plain {α : Type} {read : Json → Option α} (h : ∀ v, read v.plain = read v)
    (v : Option Json) : required? read (v.map plain) = required? read v := by
  cases v with
  | none => rfl
  | some v => exact h v

theorem optional?_plain {α : Type} {read : Json → Option α} (h : ∀ v, read v.plain = read v)
    (v : Option Json) : optional? read (v.map plain) = optional? read v := by
  rcases v with - | (- | - | - | s | - | -)
  case some.string =>
    have hread := h (.string s)
    cases hs : decode? s with
    | none => simp [plain, hs]
    | some text =>
      simp only [plain, hs, Option.map_some, Option.getD_some] at hread
      simp [plain, hs, optional?, hread]
  all_goals rfl

theorem plain_of_toString? {v : Json} {s : String} (h : v.toString? = some s) :
    v.plain = .ofString s := by
  cases v with
  | string p =>
    obtain ⟨text, htext, rfl⟩ := Option.map_eq_some_iff.mp h
    simp [plain, htext, ofString]
  | _ => cases h

theorem plain_of_optional? {v : Option Json} {s : Option String}
    (h : optional? toString? v = some s) : (v.map plain).getD .null = .ofString? s := by
  have htext {w : Json} (hw : (toString? w).map some = some s) : w.plain = .ofString? s := by
    obtain ⟨text, htext, rfl⟩ := Option.map_eq_some_iff.mp hw
    exact plain_of_toString? htext
  rcases v with - | (- | b | n | p | items | members)
  case none | some.null =>
    cases h
    rfl
  case some.string => exact htext h
  all_goals cases h

end Escapes

end CallHistory.Json
