import Mathlib.Data.List.Infix
import CallHistory.Text.Search

/-! # Where a text is cut

A text is cut at the first place of a pattern, or at the last place of a character. That place is
the one in sight if no character before it begins the pattern, or if the character does not come
again. A place of a pattern is the first exactly if the pattern does not stand in the text up to the
last character of that place, so what comes behind does not matter.
-/

namespace CallHistory.Text

variable {c : Char} {before after : List Char}

theorem cut?_eq_none_of_not_mem {more s : List Char} (h : c ∉ s) : cut? (c :: more) s = none := by
  induction s with
  | nil => rfl
  | cons d s ih =>
    rw [List.mem_cons, not_or] at h
    obtain ⟨hd, hs⟩ := h
    have hfirst : (c :: more).isPrefixOf (d :: s) = false := by simp [List.isPrefixOf, hd]
    rw [cut?, hfirst, ih hs]
    rfl

theorem cut?_append_of_not_mem {more : List Char} (h : c ∉ before) :
    cut? (c :: more) (before ++ (c :: more) ++ after) = some (before, after) := by
  induction before with
  | nil =>
    have hfirst : (c :: more).isPrefixOf (c :: (more ++ after)) = true := by
      rw [List.isPrefixOf_iff_prefix]
      exact ⟨after, rfl⟩
    simp [cut?, hfirst]
  | cons d before ih =>
    rw [List.mem_cons, not_or] at h
    obtain ⟨hd, hbefore⟩ := h
    have hfirst (s : List Char) : (c :: more).isPrefixOf (d :: s) = false := by
      simp [List.isPrefixOf, hd]
    rw [List.cons_append, List.cons_append, cut?, hfirst, ih hbefore]
    rfl

theorem cutLast?_eq_none_of_not_mem {s : List Char} (h : c ∉ s) : cutLast? c s = none := by
  induction s with
  | nil => rfl
  | cons d s ih =>
    rw [List.mem_cons, not_or] at h
    obtain ⟨hd, hs⟩ := h
    rw [cutLast?, ih hs]
    exact if_neg (Ne.symm hd)

theorem cutLast?_append_of_not_mem (h : c ∉ after) :
    cutLast? c (before ++ c :: after) = some (before, after) := by
  induction before with
  | nil =>
    rw [List.nil_append, cutLast?, cutLast?_eq_none_of_not_mem h]
    exact if_pos rfl
  | cons d before ih => rw [List.cons_append, cutLast?, ih]

/-! ## All cuts -/

variable {pattern s : List Char}

theorem cut?_eq_none_iff : cut? pattern s = none ↔ ¬pattern <:+: s := by
  induction s with
  | nil => cases pattern <;> simp [cut?]
  | cons c s ih =>
    rw [cut?, List.infix_cons_iff, ← List.isPrefixOf_iff_prefix]
    by_cases hfirst : pattern.isPrefixOf (c :: s) = true
    · simp [hfirst]
    · simp [hfirst, ih]

/-- A text is cut at a place of a pattern if the pattern does not stand in what comes up to the last
character of that place. -/
theorem cut?_of_first (hpattern : pattern ≠ []) (h : ¬pattern <:+: before ++ pattern.dropLast) :
    cut? pattern (before ++ pattern ++ after) = some (before, after) := by
  have hlength := List.length_pos_iff.mpr hpattern
  induction before with
  | nil =>
    obtain ⟨c, more, rfl⟩ := List.exists_cons_of_ne_nil hpattern
    exact cut?_append_of_not_mem List.not_mem_nil
  | cons d before ih =>
    have hfirst : ¬pattern <+: d :: (before ++ pattern ++ after) := by
      intro hbegin
      have hsplit : d :: (before ++ pattern ++ after) =
          (d :: before ++ pattern.dropLast) ++ (pattern.getLast hpattern :: after) := by
        conv_lhs => rw [← List.dropLast_append_getLast hpattern]
        simp
      rw [hsplit, List.isPrefix_append_of_length (by simp; omega)] at hbegin
      exact h hbegin.isInfix
    have hrest : ¬pattern <:+: before ++ pattern.dropLast := fun hinfix =>
      h (List.infix_cons_iff.mpr (.inr hinfix))
    rw [← List.isPrefixOf_iff_prefix] at hfirst
    rw [List.cons_append, List.cons_append, cut?, if_neg hfirst, ih hrest]
    rfl

theorem first_of_cut? (hpattern : pattern ≠ []) (h : cut? pattern s = some (before, after)) :
    ¬pattern <:+: before ++ pattern.dropLast := by
  induction s generalizing before with
  | nil => cases pattern <;> simp [cut?] at hpattern h
  | cons c s ih =>
    rw [cut?] at h
    by_cases hfirst : pattern.isPrefixOf (c :: s) = true
    · rw [if_pos hfirst] at h
      cases h
      intro hinfix
      have hlength := hinfix.length_le
      have hpos := List.length_pos_iff.mpr hpattern
      simp at hlength
      omega
    · rw [if_neg hfirst] at h
      obtain ⟨⟨rest, after'⟩, hrest, heq⟩ := Option.map_eq_some_iff.mp h
      cases heq
      have hwhole := cut?_append hrest
      rw [List.cons_append, List.infix_cons_iff, not_or]
      refine ⟨fun hbegin => hfirst ?_, ih hrest⟩
      have hlonger : c :: (rest ++ pattern.dropLast) <+: c :: s := by
        rw [← hwhole, List.cons_prefix_cons]
        refine ⟨rfl, ?_⟩
        simp only [List.append_assoc, List.prefix_append_right_inj]
        exact (List.dropLast_prefix pattern).trans (List.prefix_append _ _)
      exact List.isPrefixOf_iff_prefix.mpr (hbegin.trans hlonger)

theorem not_mem_of_cut? (h : cut? [c] s = some (before, after)) : c ∉ before := by
  have hfirst := first_of_cut? (List.cons_ne_nil c []) h
  simpa [List.singleton_infix_iff] using hfirst

theorem not_mem_of_cutLast?_eq_none (h : cutLast? c s = none) : c ∉ s := by
  induction s with
  | nil => exact List.not_mem_nil
  | cons d s ih =>
    rw [cutLast?] at h
    cases hs : cutLast? c s with
    | some r =>
      rw [hs] at h
      cases h
    | none =>
      rw [hs] at h
      have hd : d ≠ c := fun hd => by simp [hd] at h
      exact List.not_mem_cons_of_ne_of_not_mem hd.symm (ih hs)

theorem not_mem_of_cutLast? {r : List Char × List Char} (h : cutLast? c s = some r) : c ∉ r.2 := by
  induction s generalizing r with
  | nil => cases h
  | cons d s ih =>
    rw [cutLast?] at h
    cases hs : cutLast? c s with
    | some q =>
      rw [hs] at h
      cases h
      exact @ih q hs
    | none =>
      rw [hs] at h
      by_cases hd : d = c
      · rw [if_pos hd] at h
        cases h
        exact not_mem_of_cutLast?_eq_none hs
      · rw [if_neg hd] at h
        cases h

end CallHistory.Text
