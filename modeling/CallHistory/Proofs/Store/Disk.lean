import CallHistory.Store.Disk

/-! # Appending to a disk

All that the history asks of a disk is that an append which succeeds puts its text behind what the
file held. Nested folders do so, since a file that is put where no folder stands leaves every way
through the folders as it was, and so does a drive with a single file.
-/

namespace CallHistory

variable {δ : Type}

/-- What is read of a file, the text of one that is not there being empty, grows at its end by what
is appended to the file. -/
def Disk.Appends (d : Disk δ) (text : String → δ → List Char) : Prop :=
  ∀ {path more s s'}, d.append path more s = .ok s' → text path s' = text path s ++ more

namespace Folders

theorem lookup_filter_ne {place other : List String} (h : other ≠ place)
    (nodes : List (List String × Node)) :
    List.lookup other (nodes.filter (·.1 ≠ place)) = List.lookup other nodes := by
  induction nodes with
  | nil => rfl
  | cons m nodes ih =>
    obtain ⟨here, n⟩ := m
    by_cases hhere : here = place
    · subst hhere
      have hother : (other == here) = false := by simp [h]
      simp only [List.lookup_cons, hother, ← ih]
      simp
    · simp only [List.filter_cons, hhere, ne_eq, not_false_eq_true, decide_true, if_true,
        List.lookup_cons, ih]

theorem find?_put_self (t : Folders) {place : List String} (hplace : place ≠ []) (n : Node) :
    (t.put place n).find? place = some n := by
  simp [find?, put, hplace]

theorem find?_put_of_ne (t : Folders) {place other : List String} (h : other ≠ place) (n : Node) :
    (t.put place n).find? other = t.find? other := by
  have hother : (other == place) = false := by simp [h]
  simp only [find?, put, List.lookup_cons, hother, lookup_filter_ne h]

/-- A file that stands where no folder does blocks no way through the folders. -/
theorem walk_put {t : Folders} {place : List String} (hplace : t.find? place ≠ some .folder)
    (n : Node) {way here folder : List String} (h : t.walk way here = .ok folder) :
    (t.put place n).walk way here = .ok folder := by
  induction way generalizing here with
  | nil => exact h
  | cons name rest ih =>
    rw [walk] at h ⊢
    by_cases hstay : name = "" ∨ name = "."
    · rw [if_pos hstay] at h ⊢
      exact ih h
    rw [if_neg hstay] at h ⊢
    by_cases hup : name = ".."
    · rw [if_pos hup] at h ⊢
      exact ih h
    rw [if_neg hup] at h ⊢
    by_cases hlong : longestName < name.utf8ByteSize
    · rw [if_pos hlong] at h
      cases h
    rw [if_neg hlong] at h ⊢
    -- The walk goes on through a folder, and that is not where the file was put.
    cases hfound : t.find? (here ++ [name]) with
    | none => rw [hfound] at h; cases h
    | some found =>
      rw [hfound] at h
      cases found with
      | file text => cases h
      | folder =>
        have hne : here ++ [name] ≠ place := fun heq => hplace (heq ▸ hfound)
        rw [find?_put_of_ne t hne, hfound]
        exact ih h

/-- A file that can be opened is there with its text, or it is not there and its text is empty. Once
it has been written it is found at the same place with the new text. -/
theorem locate_put {t : Folders} {path : String} {place : List String} {old : List Char}
    (h : t.locate path = .ok (place, old)) (new : List Char) :
    (t.find? place = some (.file old) ∨ t.find? place = none ∧ old = []) ∧
      (t.put place (.file new)).locate path = .ok (place, new) ∧
      (t.put place (.file new)).find? place = some (.file new) := by
  simp only [locate] at h ⊢
  by_cases hbad : path.toList.contains '\x00' = true
  · rw [if_pos hbad] at h
    cases h
  rw [if_neg hbad] at h ⊢
  by_cases hempty : path = ""
  · rw [if_pos hempty] at h
    cases h
  rw [if_neg hempty] at h ⊢
  by_cases hlong : longestPath < path.utf8ByteSize
  · rw [if_pos hlong] at h
    cases h
  rw [if_neg hlong] at h ⊢
  generalize target path = names at h ⊢
  obtain ⟨way, name, closed⟩ := names
  cases hwalk : t.walk way [] with
  | error e =>
    rw [hwalk] at h
    cases h
  | ok folder =>
    simp only [hwalk, Except.bind] at h
    by_cases hname : name = "" ∨ name = "." ∨ name = ".." ∨ closed = true
    · rw [if_pos hname] at h
      cases h
    rw [if_neg hname] at h
    by_cases hlong' : longestName < name.utf8ByteSize
    · rw [if_pos hlong'] at h
      cases h
    rw [if_neg hlong'] at h
    have hfound : place = folder ++ [name] ∧
        (t.find? place = some (.file old) ∨ t.find? place = none ∧ old = []) := by
      split at h
      · cases h
      · cases h
        exact ⟨rfl, .inl ‹_›⟩
      · cases h
        exact ⟨rfl, .inr ⟨‹_›, rfl⟩⟩
    obtain ⟨rfl, hold⟩ := hfound
    have hself := find?_put_self t (List.append_ne_nil_of_right_ne_nil folder
      (List.cons_ne_nil name [])) (.file new)
    have hplace : t.find? (folder ++ [name]) ≠ some .folder := by
      rcases hold with hfile | ⟨hnone, -⟩
      · simp [hfile]
      · simp [hnone]
    refine ⟨hold, ?_, hself⟩
    simp only [walk_put hplace _ hwalk, Except.bind, if_neg hname, if_neg hlong', hself]

/-- The text of a file; that of one that is not there is empty. -/
def text (path : String) (t : Folders) : List Char :=
  (t.read? path).getD []

theorem text_of_locate {t : Folders} {path : String} {place : List String} {old : List Char}
    (h : t.locate path = .ok (place, old)) : t.text path = old := by
  rcases (locate_put h []).1 with hfile | ⟨hnone, rfl⟩
  · simp [text, read?, h, hfile]
  · simp [text, read?, h, hnone]

theorem appends : disk.Appends text := by
  intro path more t t' h
  change (t.locate path).map _ = _ at h
  cases hplace : t.locate path with
  | error e =>
    rw [hplace] at h
    cases h
  | ok found =>
    obtain ⟨place, old⟩ := found
    rw [hplace] at h
    cases h
    rw [text_of_locate hplace, text_of_locate (locate_put hplace _).2.1]

end Folders

theorem Drive.appends : disk.Appends fun _ d => d.text := by
  intro path more d d' h
  simp only [disk] at h
  split at h
  · cases h
  · cases h
    rfl

end CallHistory
