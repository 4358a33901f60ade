import CallHistory.Proofs.Store.Line

/-! # Spellings of an id

An id is read in four forms, in any letter case, and written in one of them in lower case.
-/

namespace CallHistory.Uuid

/-- The forms in which an id is read, in any letter case: digits alone, with hyphens, and these in
braces or behind `urn:uuid:`. -/
def IsSpelling (u : Uuid) (s : List Char) : Prop :=
  s.map Char.toLower ∈ [u.digits.map Text.Hex.char, u.text, '\x7b' :: (u.text ++ ['\x7d']),
    "urn:uuid:".toList ++ u.text]

/-- Five groups of lower-case hexadecimal digits, joined by hyphens. -/
def IsHyphenated (s : List Char) : Prop :=
  ∃ a b c d e : List Char, s = a ++ '-' :: b ++ '-' :: c ++ '-' :: d ++ '-' :: e ∧
    [a, b, c, d, e].map List.length = [8, 4, 4, 4, 12] ∧
    ∀ x ∈ a ++ b ++ c ++ d ++ e, x ∈ "0123456789abcdef".toList

theorem text_of_groups {u : Uuid} {a b c d e : List Char}
    (h : u.digits.map Text.Hex.char = a ++ b ++ c ++ d ++ e) (ha : a.length = 8)
    (hb : b.length = 4) (hc : c.length = 4) (hd : d.length = 4) :
    u.text = a ++ '-' :: b ++ '-' :: c ++ '-' :: d ++ '-' :: e := by
  simp (disch := omega) [text, h, List.drop_append, List.drop_eq_nil_of_le, ha, hb, hc]

theorem isHyphenated_text (u : Uuid) : IsHyphenated u.text := by
  have hlower : ∀ d, Text.Hex.char d ∈ "0123456789abcdef".toList := by decide
  refine ⟨_, _, _, _, _, rfl, by simp [u.length_digits], fun x hx => ?_⟩
  rw [groups_append] at hx
  obtain ⟨d, -, rfl⟩ := List.mem_map.mp hx
  exact hlower d

section Reading

theorem toLower_of_digit? {c : Char} {d : Fin 16} (h : Text.Hex.digit? c = some d) :
    c.toLower = Text.Hex.char d := by
  have hlower : ∀ d, (Text.Hex.char d).toLower = Text.Hex.char d ∧
      (Text.Hex.char d).toUpper.toLower = Text.Hex.char d := by decide
  have hcases := List.find?_some h
  rw [Bool.or_eq_true, decide_eq_true_eq, decide_eq_true_eq] at hcases
  rcases hcases with rfl | rfl
  · exact (hlower d).1
  · exact (hlower d).2

theorem map_toLower_of_mapM {s : List Char} {ds : List (Fin 16)}
    (h : s.mapM Text.Hex.digit? = some ds) : s.map Char.toLower = ds.map Text.Hex.char := by
  induction s generalizing ds with
  | nil =>
    cases h
    rfl
  | cons c s ih =>
    simp only [List.mapM_cons, Option.bind_eq_bind, Option.bind_eq_some_iff] at h
    obtain ⟨d, hd, rest, hrest, hds⟩ := h
    cases hds
    rw [List.map_cons, List.map_cons, toLower_of_digit? hd, ih hrest]

theorem map_toLower_of_ofPlain? {s : List Char} {u : Uuid} (h : ofPlain? s = some u) :
    s.map Char.toLower = u.digits.map Text.Hex.char := by
  obtain ⟨ds, hds, hu⟩ := Option.bind_eq_some_iff.mp h
  unfold ofDigits? at hu
  split at hu
  · cases hu
    exact map_toLower_of_mapM hds
  · cases hu

theorem eq_take_cons_drop {s : List Char} {i : Nat} {c : Char} (h : s[i]? = some c) :
    s = s.take i ++ c :: s.drop (i + 1) := by
  obtain ⟨hi, rfl⟩ := List.getElem?_eq_some_iff.mp h
  rw [← List.drop_eq_getElem_cons hi, List.take_append_drop]

theorem map_toLower_of_ofHyphenated? {s : List Char} {u : Uuid} (h : ofHyphenated? s = some u) :
    s.map Char.toLower = u.text := by
  unfold ofHyphenated? at h
  simp only at h
  split at h
  · rename_i hmarks
    simp only [Bool.and_eq_true, decide_eq_true_eq, beq_iff_eq] at hmarks
    obtain ⟨⟨⟨⟨hlength, h8⟩, h13⟩, h18⟩, h23⟩ := hmarks
    have hdigits := map_toLower_of_ofPlain? h
    have hsplit : s = s.take 8 ++ '-' :: ((s.drop 9).take 4 ++ '-' :: ((s.drop 14).take 4 ++ '-' ::
        ((s.drop 19).take 4 ++ '-' :: s.drop 24))) := by
      have h13' := @eq_take_cons_drop (s.drop 9) 4 '-' (by rw [List.getElem?_drop, h13])
      have h18' := @eq_take_cons_drop (s.drop 14) 4 '-' (by rw [List.getElem?_drop, h18])
      have h23' := @eq_take_cons_drop (s.drop 19) 4 '-' (by rw [List.getElem?_drop, h23])
      rw [List.drop_drop] at h13' h18' h23'
      rw [← h23', ← h18', ← h13']
      exact eq_take_cons_drop h8
    have hlengths : (s.take 8).length = 8 ∧ ((s.drop 9).take 4).length = 4 ∧
        ((s.drop 14).take 4).length = 4 ∧ ((s.drop 19).take 4).length = 4 := by
      simp only [List.length_take, List.length_drop]
      omega
    generalize s.take 8 = a at *
    generalize (s.drop 9).take 4 = b at *
    generalize (s.drop 14).take 4 = c at *
    generalize (s.drop 19).take 4 = d at *
    generalize s.drop 24 = e at *
    obtain ⟨ha, hb, hc, hd⟩ := hlengths
    rw [hsplit]
    rw [@text_of_groups u (a.map Char.toLower) (b.map Char.toLower) (c.map Char.toLower)
      (d.map Char.toLower) (e.map Char.toLower) (by simpa using hdigits.symm) (by simpa using ha)
      (by simpa using hb) (by simpa using hc) (by simpa using hd)]
    simp
  · cases h

theorem isSpelling_of_parse? {s : List Char} {u : Uuid} (h : parse? s = some u) :
    u.IsSpelling s := by
  unfold parse? at h
  split at h
  · rw [IsSpelling, map_toLower_of_ofPlain? h]
    exact List.mem_cons_self
  · have htext := map_toLower_of_ofHyphenated? h
    unfold unwrap at htext
    rw [IsSpelling]
    split at htext
    · rename_i hurn
      have hall : s.map Char.toLower = "urn:uuid:".toList ++ u.text := by
        rw [← hurn, ← htext, ← List.map_append, List.take_append_drop]
      simp [hall]
    · split at htext
      · rename_i hbraces
        simp only [Bool.and_eq_true, decide_eq_true_eq] at hbraces
        obtain ⟨hopen, hclose⟩ := hbraces
        obtain ⟨rest, rfl⟩ := List.head?_eq_some_iff.mp hopen
        obtain ⟨inner, hinner⟩ := List.getLast?_eq_some_iff.mp hclose
        cases inner with
        | nil => cases hinner
        | cons c inner =>
          rw [List.cons_append, List.cons.injEq] at hinner
          obtain ⟨rfl, rfl⟩ := hinner
          rw [List.tail_cons, List.dropLast_concat] at htext
          have hbrace : '\x7b'.toLower = '\x7b' ∧ '\x7d'.toLower = '\x7d' := by decide
          simp [htext, hbrace]
      · rw [htext]
        simp

end Reading

end CallHistory.Uuid
