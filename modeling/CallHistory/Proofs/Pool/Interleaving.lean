/-! # Interleavings

An interleaving of several lists takes the head of any of them as long as there is one. Each of the
lists keeps its order in it, and together they are all that it holds.
-/

namespace CallHistory

variable {α : Type}

/-- The second list is made of the first ones by taking from the front of any of them in turn. -/
inductive Interleaving : List (List α) → List α → Prop
  | done {parts : List (List α)} (hempty : ∀ part ∈ parts, part = []) : Interleaving parts []
  | next {before after : List (List α)} {a : α} {part whole : List α}
    (htail : Interleaving (before ++ part :: after) whole) :
    Interleaving (before ++ (a :: part) :: after) (a :: whole)

namespace Interleaving

variable {parts : List (List α)} {whole : List α}

theorem perm (h : Interleaving parts whole) {parts' : List (List α)} (hperm : parts.Perm parts') :
    Interleaving parts' whole := by
  induction h generalizing parts' with
  | done hempty => exact .done fun part hpart => hempty part (hperm.mem_iff.mpr hpart)
  | @next before after a part whole htail ih =>
    have hmem : (a :: part) ∈ parts' := hperm.mem_iff.mp (by simp)
    obtain ⟨before', after', rfl⟩ := List.append_of_mem hmem
    have hrest : (before ++ after).Perm (before' ++ after') :=
      ((List.perm_middle.symm.trans hperm).trans List.perm_middle).cons_inv
    have hpart : (before ++ part :: after).Perm (before' ++ part :: after') :=
      (List.perm_middle.trans (hrest.cons part)).trans List.perm_middle.symm
    exact .next (ih hpart)

theorem nil_cons (h : Interleaving parts whole) : Interleaving ([] :: parts) whole := by
  induction h with
  | done hempty =>
    refine .done fun part hpart => ?_
    cases List.mem_cons.mp hpart with
    | inl he => exact he
    | inr hmem => exact hempty part hmem
  | @next before after a part whole htail ih => exact @next _ ([] :: before) after a part whole ih

theorem of_nil_cons (h : Interleaving ([] :: parts) whole) : Interleaving parts whole := by
  generalize hcons : [] :: parts = parts' at h
  induction h generalizing parts with
  | done hempty =>
    subst hcons
    exact .done fun part hpart => hempty part (List.mem_cons_of_mem _ hpart)
  | @next before after a part whole htail ih =>
    cases before with
    | nil => cases hcons
    | cons b before =>
      obtain ⟨rfl, rfl⟩ := List.cons.inj hcons
      exact .next (ih rfl)

theorem of_replicate_nil {n : Nat} (h : Interleaving (List.replicate n [] ++ parts) whole) :
    Interleaving parts whole := by
  induction n with
  | zero => exact h
  | succ n ih => exact ih h.of_nil_cons

/-- An interleaving holds what the parts hold, each as often. -/
theorem flatten_perm (h : Interleaving parts whole) : whole.Perm parts.flatten := by
  induction h with
  | done hempty =>
    rw [List.flatten_eq_nil_iff.mpr hempty]
  | @next before after a part whole htail ih =>
    have hfront : (before ++ (a :: part) :: after).flatten.Perm
        (a :: (before ++ part :: after).flatten) := by
      simp only [List.flatten_append, List.flatten_cons, List.cons_append]
      exact List.perm_middle
    exact (ih.cons a).trans hfront.symm

theorem sublist (h : Interleaving parts whole) : ∀ part ∈ parts, part.Sublist whole := by
  induction h with
  | done hempty =>
    intro part hpart
    obtain rfl := hempty part hpart
    exact List.Sublist.refl _
  | @next before after a part whole htail ih =>
    intro part' hpart'
    rw [List.mem_append, List.mem_cons] at hpart'
    obtain hmem | rfl | hmem := hpart'
    · exact (ih part' (by simp [hmem])).cons a
    · exact (ih part (by simp)).cons_cons a
    · exact (ih part' (by simp [hmem])).cons a

end Interleaving
end CallHistory
