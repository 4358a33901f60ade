import CallHistory.Phone.Emergency
import CallHistory.Phone.Handle
import Mathlib.Data.List.Basic

/-! # Numbers in their normal form

Normalizing a number that is already in the form of the history changes nothing, and it changes no
answer of an emergency list: the number that is logged is recognized exactly if the number that was
dialed is.
-/

namespace CallHistory

theorem Text.mem_of_contains {pattern s : List Char} (h : contains pattern s = true) {c : Char}
    (hc : c ∈ pattern) : c ∈ s := by
  obtain ⟨r, hr⟩ := Option.isSome_iff_exists.mp h
  rw [← cut?_append hr]
  exact List.mem_append_left _ (List.mem_append_right _ hc)

namespace Phone

theorem digitValue?_lt {c : Char} {v : Nat} (h : digitValue? c = some v) : v < 10 := by
  obtain ⟨z, hz, rfl⟩ := Option.map_eq_some_iff.mp h
  have hrange := List.find?_some hz
  simp only [Bool.and_eq_true, decide_eq_true_eq] at hrange
  omega

/-- The digits that are kept stand for themselves, and no address is made of them. -/
theorem dialable?_digitChar : ∀ v < 10, dialable? (Nat.digitChar v) = some (Nat.digitChar v) ∧
    Nat.digitChar v ≠ '@' ∧ Nat.digitChar v ≠ '%' := by
  decide

theorem dialable?_of_mem_marks {c : Char} (h : c ∈ marks) : dialable? c = some c := by
  have hall : marks.map dialable? = marks.map some := by decide
  exact List.map_inj_left.mp hall c h

theorem dialable?_cases {c d : Char} (h : dialable? c = some d) :
    (∃ v < 10, d = Nat.digitChar v) ∨ d ∈ marks := by
  unfold dialable? at h
  split at h
  · rename_i v hv
    cases h
    exact .inl ⟨v, digitValue?_lt hv, rfl⟩
  · split at h
    · rename_i hmark
      cases h
      exact .inr hmark
    · cases h

theorem dialable?_kept {c d : Char} (h : dialable? c = some d) :
    dialable? d = some d ∧ d ≠ '@' ∧ d ≠ '%' := by
  obtain ⟨v, hv, rfl⟩ | hmark := dialable?_cases h
  · exact dialable?_digitChar v hv
  · refine ⟨dialable?_of_mem_marks hmark, ?_, ?_⟩
    · rintro rfl
      exact absurd hmark (by decide)
    · rintro rfl
      exact absurd hmark (by decide)

theorem mem_stripSeparators {number : String} {d : Char}
    (h : d ∈ (stripSeparators number).toList) : dialable? d = some d ∧ d ≠ '@' ∧ d ≠ '%' := by
  rw [stripSeparators, String.toList_ofList] at h
  obtain ⟨c, -, hc⟩ := List.mem_filterMap.mp h
  exact dialable?_kept hc

theorem stripSeparators_stripSeparators (number : String) :
    stripSeparators (stripSeparators number) = stripSeparators number := by
  have hkept : (stripSeparators number).toList.filterMap dialable? =
      (stripSeparators number).toList.filterMap some :=
    List.filterMap_congr fun d hd => (mem_stripSeparators hd).1
  rw [stripSeparators, hkept, List.filterMap_some, String.ofList_toList]

/-- What is left of a number is no address. -/
theorem isUri_stripSeparators (number : String) : isUri (stripSeparators number) = false := by
  unfold isUri
  rw [Bool.or_eq_false_iff]
  constructor
  · rw [List.contains_eq_mem, decide_eq_false_iff_not]
    exact fun hat => (mem_stripSeparators hat).2.1 rfl
  · rw [Bool.eq_false_iff]
    intro hescape
    exact (mem_stripSeparators (Text.mem_of_contains hescape List.mem_cons_self)).2.2 rfl

theorem normalize_normalize (number : String) : normalize (normalize number) = normalize number := by
  unfold normalize
  cases huri : isUri number with
  | true => simp [huri]
  | false => simp [isUri_stripSeparators, stripSeparators_stripSeparators]

namespace EmergencyNumbers

/-- An emergency list says the same of a number before and after it is normalized. -/
theorem recognizes_normalize (e : EmergencyNumbers) (number : String) :
    e.recognizes (normalize number) = e.recognizes number := by
  unfold normalize recognizes
  cases huri : isUri number with
  | true => simp [huri]
  | false => simp [isUri_stripSeparators, stripSeparators_stripSeparators]

theorem recognizes_logNumber (e : EmergencyNumbers) (h : Handle) :
    e.recognizes h.logNumber = e.recognizes h.part :=
  e.recognizes_normalize h.part

end EmergencyNumbers
end Phone
end CallHistory
