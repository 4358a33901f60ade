import CallHistory.Text.Decimal
import CallHistory.Text.Hex

/-! # Digits

Numerals filled up with zeros have a fixed width and the value of the number. A hexadecimal numeral
is the text of a list of digits, a decimal one begins with a zero only if it is that of zero.
-/

namespace CallHistory.Text

namespace Hex

theorem value_append (ds : List (Fin 16)) (d : Fin 16) :
    value (ds ++ [d]) = 16 * value ds + d := by
  simp [value]

theorem value_replicate_zero (k : Nat) (ds : List (Fin 16)) :
    value (List.replicate k 0 ++ ds) = value ds := by
  induction k with
  | zero => rfl
  | succ k ih => exact ih

theorem exists_digits (n : Nat) : ∃ ds, digits n = ds.map char ∧ value ds = n := by
  induction n using Nat.strongRecOn with
  | ind n ih =>
    by_cases hn : n < 16
    · exact ⟨[⟨n, hn⟩], Nat.toDigits_of_lt_base hn, by simp [value]⟩
    · obtain ⟨ds, hds, hvalue⟩ := ih (n / 16) (by omega)
      refine ⟨ds ++ [⟨n % 16, by omega⟩], ?_, ?_⟩
      · rw [digits, Nat.toDigits_of_base_le (by decide) (by omega), List.map_append, ← hds]
        rfl
      · rw [value_append, hvalue]
        exact Nat.div_add_mod n 16

/-- Zeros in front make digits of any greater number, and leave the value as it is. -/
theorem exists_digits_filled {width n : Nat} (h : (digits n).length ≤ width) :
    ∃ ds, List.replicate (width - (digits n).length) '0' ++ digits n = ds.map char ∧
      ds.length = width ∧ value ds = n := by
  obtain ⟨ds, hds, hvalue⟩ := exists_digits n
  refine ⟨List.replicate (width - (digits n).length) 0 ++ ds, ?_, ?_, ?_⟩
  · rw [List.map_append, List.map_replicate, ← hds]
    rfl
  · have hlength : (digits n).length = ds.length := by rw [hds, List.length_map]
    rw [List.length_append, List.length_replicate]
    omega
  · rw [value_replicate_zero, hvalue]

end Hex

namespace Decimal

theorem span_isDigit {ds rest : List Char} (hds : ∀ c ∈ ds, c.isDigit = true)
    (hrest : ∀ c ∈ rest.head?, c.isDigit = false) :
    (ds ++ rest).takeWhile Char.isDigit = ds ∧ (ds ++ rest).dropWhile Char.isDigit = rest := by
  have hstop : rest.takeWhile Char.isDigit = [] ∧ rest.dropWhile Char.isDigit = rest := by
    cases rest with
    | nil => exact ⟨rfl, rfl⟩
    | cons c rest => simp [hrest c rfl]
  rw [List.takeWhile_append_of_pos hds, List.dropWhile_append_of_pos hds, hstop.1, hstop.2]
  exact ⟨List.append_nil ds, rfl⟩

theorem head?_ofNat {n : Nat} (h : 0 < n) : (ofNat n).head? ≠ some '0' := by
  induction n using Nat.strongRecOn with
  | ind n ih =>
    by_cases hn : n < 10
    · have hdigit : ∀ n < 10, 0 < n → some (Nat.digitChar n) ≠ some '0' := by decide
      rw [ofNat, Nat.toDigits_of_lt_base hn]
      exact hdigit n hn h
    · have hrest := ih (n / 10) (by omega) (by omega)
      obtain ⟨c, cs, hcons⟩ := List.exists_cons_of_ne_nil (ofNat_ne_nil (n / 10))
      rw [hcons] at hrest
      rw [ofNat, Nat.toDigits_of_base_le (by decide) (by omega)]
      change (ofNat (n / 10) ++ _).head? ≠ _
      rw [hcons]
      exact hrest

theorem isDigit_of_mem_padded {width n : Nat} {c : Char} (h : c ∈ padded width n) :
    c.isDigit = true := by
  rw [padded, List.mem_append] at h
  rcases h with hzero | hdigit
  · rw [List.eq_of_mem_replicate hzero]
    rfl
  · exact isDigit_of_mem_ofNat hdigit

theorem padded_ne_nil (width n : Nat) : padded width n ≠ [] :=
  List.append_ne_nil_of_right_ne_nil _ (ofNat_ne_nil n)

@[simp] theorem value_padded (width n : Nat) : value (padded width n) = n := by
  rw [value, padded, Nat.ofDigitChars_append, Nat.ofDigitChars_replicate_zero, Nat.mul_zero]
  exact value_ofNat n

theorem length_padded {width n : Nat} (h : (ofNat n).length ≤ width) :
    (padded width n).length = width := by
  rw [padded, List.length_append, List.length_replicate]
  omega

end Decimal
end CallHistory.Text
