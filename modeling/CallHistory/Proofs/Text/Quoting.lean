import CallHistory.Proofs.Text.Cutting
import CallHistory.Proofs.Text.Digits
import CallHistory.Text.Quoted

/-! # Quoted texts are told apart

The spelling of a character shows where it ends, so a quoted text tells which text was quoted.
-/

namespace CallHistory.Text

namespace Hex

theorem char_injective {d e : Fin 16} (h : char d = char e) : d = e :=
  Option.some.inj (by rw [← digit?_char d, h, digit?_char])

theorem digits_injective {m n : Nat} (h : digits m = digits n) : m = n := by
  obtain ⟨ds, hds, rfl⟩ := exists_digits m
  obtain ⟨es, hes, rfl⟩ := exists_digits n
  rw [hds, hes] at h
  exact congrArg value (List.map_inj_right (fun _ _ => char_injective) |>.mp h)

theorem mem_digits {n : Nat} {c : Char} (h : c ∈ digits n) : ∃ d, char d = c := by
  obtain ⟨ds, hds, -⟩ := exists_digits n
  rw [hds] at h
  obtain ⟨d, -, hd⟩ := List.mem_map.mp h
  exact ⟨d, hd⟩

end Hex

namespace Quoted

theorem spell_cases (c : Char) :
    (∃ e, short? c = some e ∧ spell c = ['\\', e]) ∨
      spell c = '\\' :: 'u' :: '\x7b' :: (Hex.digits c.toNat ++ ['\x7d']) ∨
      c ≠ '\\' ∧ spell c = [c] := by
  unfold spell
  cases hshort : short? c with
  | some e => exact .inl ⟨e, rfl, rfl⟩
  | none =>
    by_cases hhidden : isHidden c = true
    · exact .inr (.inl (if_pos hhidden))
    · refine .inr (.inr ⟨?_, if_neg hhidden⟩)
      rintro rfl
      cases hshort

theorem short?_ne_u (c : Char) : short? c ≠ some 'u' := by
  unfold short?
  split <;> decide

theorem short?_injective {c d e : Char} (hc : short? c = some e) (hd : short? d = some e) :
    c = d := by
  unfold short? at hc hd
  split at hc <;> cases hc <;> split at hd <;> first | rfl | cases hd

/-- The end of a spelling can be seen. -/
theorem spell_append_inj {c d : Char} {s t : List Char} (h : spell c ++ s = spell d ++ t) :
    c = d ∧ s = t := by
  rcases spell_cases c with ⟨e, he, hc⟩ | hc | ⟨hslash, hc⟩ <;>
    rcases spell_cases d with ⟨f, hf, hd⟩ | hd | ⟨hslash', hd⟩ <;>
    rw [hc, hd] at h <;> injection h with hfirst h
  · injection h with hletter hrest
    exact ⟨short?_injective he (hletter ▸ hf), hrest⟩
  · injection h with hletter
    exact absurd (hletter ▸ he) (short?_ne_u c)
  · exact absurd hfirst.symm hslash'
  · injection h with hletter
    exact absurd (hletter ▸ hf) (short?_ne_u d)
  · -- The numbers end at the same brace, which is no digit.
    have hbrace (n : Nat) : '\x7d' ∉ Hex.digits n := fun hmem => by
      obtain ⟨e, he⟩ := Hex.mem_digits hmem
      exact absurd he (by revert e; decide)
    have hcut (c : Char) (s : List Char) :
        cut? ['\x7d'] (Hex.digits c.toNat ++ ['\x7d'] ++ s) = some (Hex.digits c.toNat, s) :=
      cut?_append_of_not_mem (hbrace c.toNat)
    have hnumbers : Hex.digits c.toNat ++ ['\x7d'] ++ s = Hex.digits d.toNat ++ ['\x7d'] ++ t :=
      (List.cons.inj (List.cons.inj h).2).2
    have hends := congrArg (cut? ['\x7d']) hnumbers
    rw [hcut, hcut, Option.some.injEq, Prod.mk.injEq] at hends
    exact ⟨Char.toNat_inj.mp (Hex.digits_injective hends.1), hends.2⟩
  · exact absurd hfirst.symm hslash'
  · exact absurd hfirst hslash
  · exact absurd hfirst hslash
  · exact ⟨hfirst, h⟩

theorem spell_ne_nil (c : Char) : spell c ≠ [] := by
  rcases spell_cases c with ⟨e, -, hc⟩ | hc | ⟨-, hc⟩ <;> rw [hc] <;> exact List.cons_ne_nil _ _

theorem flatMap_spell_injective {s t : List Char} (h : s.flatMap spell = t.flatMap spell) :
    s = t := by
  induction s generalizing t with
  | nil =>
    cases t with
    | nil => rfl
    | cons d t =>
      have hnil := (List.append_eq_nil_iff.mp (h.symm.trans List.flatMap_nil)).1
      exact absurd hnil (spell_ne_nil d)
  | cons c s ih =>
    cases t with
    | nil =>
      have hnil := (List.append_eq_nil_iff.mp (h.trans List.flatMap_nil)).1
      exact absurd hnil (spell_ne_nil c)
    | cons d t =>
      obtain ⟨rfl, hrest⟩ := spell_append_inj h
      rw [ih hrest]

@[simp] theorem text_inj {s t : List Char} : text s = text t ↔ s = t := by
  constructor
  · intro h
    have hspelled := List.append_cancel_right (List.cons.inj h).2
    exact flatMap_spell_injective hspelled
  · exact congrArg text

end Quoted
end CallHistory.Text
