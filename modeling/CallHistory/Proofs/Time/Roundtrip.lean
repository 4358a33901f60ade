import CallHistory.Proofs.Text.Digits
import CallHistory.Time.Stamp

/-! # Written stamps are read

The written form of a stamp has all its fields in full width and is in universal time. Reading, which
is more liberal, gives the stamp back.
-/

namespace CallHistory.Stamp

section Fields

theorem not_isBlank_of_isDigit {c : Char} (h : c.isDigit = true) : Text.isBlank c = false := by
  have hdigit : 48 ≤ c.toNat ∧ c.toNat ≤ 57 := Char.isDigit_iff_toNat.mp h
  simp [Text.isBlank, Text.blanks, Text.Ranges.has]
  omega

theorem trimLeft_cons {c : Char} (h : Text.isBlank c = false) (s : List Char) :
    Text.trimLeft (c :: s) = c :: s := by
  simp [Text.trimLeft, h]

theorem trimLeft_digits {ds : List Char} (hne : ds ≠ []) (hds : ∀ c ∈ ds, c.isDigit = true)
    (s : List Char) : Text.trimLeft (ds ++ s) = ds ++ s := by
  obtain ⟨d, rest, rfl⟩ := List.exists_cons_of_ne_nil hne
  exact trimLeft_cons (not_isBlank_of_isDigit (hds d List.mem_cons_self)) (rest ++ s)

theorem digits?_append {ds : List Char} (hne : ds ≠ []) (hds : ∀ c ∈ ds, c.isDigit = true)
    {most : Nat} (hmost : ds.length ≤ most) {s : List Char}
    (hs : ds.length = most ∨ ∀ c ∈ s.head?, c.isDigit = false) :
    digits? most (ds ++ s) = some (Text.Decimal.value ds, s) := by
  have hstop : ∀ c ∈ (s.take (most - ds.length)).head?, c.isDigit = false := by
    rcases hs with hfull | hend
    · simp [hfull]
    · intro c hc
      rw [List.head?_take] at hc
      split at hc
      · cases hc
      · exact hend c hc
  have hread : ((ds ++ s).take most).takeWhile Char.isDigit = ds := by
    rw [List.take_append, List.take_of_length_le hmost]
    exact (Text.Decimal.span_isDigit hds hstop).1
  simp [digits?, hread, hne]

/-- A number filled up to the width of its field is read to the end of the field. -/
theorem field?_padded {width n : Nat} (h : (Text.Decimal.ofNat n).length ≤ width)
    (s : List Char) : field? width (Text.Decimal.padded width n ++ s) = some (n, s) := by
  have hne := Text.Decimal.padded_ne_nil width n
  have hds (c : Char) (hc : c ∈ Text.Decimal.padded width n) : c.isDigit = true :=
    Text.Decimal.isDigit_of_mem_padded hc
  have hlength := Text.Decimal.length_padded h
  rw [field?, trimLeft_digits hne hds, digits?_append hne hds (Nat.le_of_eq hlength) (.inl hlength),
    Text.Decimal.value_padded]

theorem field?_two {n : Nat} (h : n < 100) (s : List Char) :
    field? 2 (Text.Decimal.padded 2 n ++ s) = some (n, s) :=
  field?_padded ((Nat.length_toDigits_le_iff (by decide) (by decide)).mpr h) s

theorem mark?_cons {c : Char} (h : Text.isBlank c = false) (s : List Char) :
    mark? c (c :: s) = some s := by
  simp [mark?, trimLeft_cons h]

end Fields

theorem year?_digits {ds : List Char} (hne : ds ≠ []) (hds : ∀ c ∈ ds, c.isDigit = true)
    (s : List Char) :
    year? (ds ++ s) = (digits? 4 (ds ++ s)).map fun (n, rest) => ((n : Int), rest) := by
  obtain ⟨d, rest, rfl⟩ := List.exists_cons_of_ne_nil hne
  have hd := hds d List.mem_cons_self
  have hminus : d ≠ '-' := by rintro rfl; exact absurd hd (by decide)
  have hplus : d ≠ '+' := by rintro rfl; exact absurd hd (by decide)
  rw [year?, trimLeft_digits hne hds]
  simp [hminus, hplus]

theorem year?_printYear (year : Int) (s : List Char) :
    year? (printYear year ++ '-' :: s) = some (year, '-' :: s) := by
  have hne := Text.Decimal.padded_ne_nil 4 year.natAbs
  have hds (c : Char) (hc : c ∈ Text.Decimal.padded 4 year.natAbs) : c.isDigit = true :=
    Text.Decimal.isDigit_of_mem_padded hc
  have hstop : ∀ c ∈ ('-' :: s).head?, c.isDigit = false := by
    simp
  rw [printYear]
  by_cases hfour : 0 ≤ year ∧ year ≤ 9999
  · have hlength : (Text.Decimal.padded 4 year.natAbs).length = 4 :=
      Text.Decimal.length_padded ((Nat.length_toDigits_le_iff (by decide) (by decide)).mpr (by omega))
    rw [if_pos hfour, year?_digits hne hds,
      digits?_append hne hds (Nat.le_of_eq hlength) (.inl hlength), Text.Decimal.value_padded]
    simp [Int.natAbs_of_nonneg hfour.1]
  · have hread : digits? (Text.Decimal.padded 4 year.natAbs ++ '-' :: s).length
        (Text.Decimal.padded 4 year.natAbs ++ '-' :: s) = some (year.natAbs, '-' :: s) := by
      rw [digits?_append hne hds (by rw [List.length_append]; omega) (.inr hstop),
        Text.Decimal.value_padded]
    rw [if_neg hfour]
    by_cases hneg : year < 0
    · rw [if_pos hneg, List.cons_append, year?, trimLeft_cons (by decide)]
      simp only [hread, Option.map_some]
      rw [show -(year.natAbs : Int) = year by omega]
    · rw [if_neg hneg, List.cons_append, year?, trimLeft_cons (by decide)]
      simp only [hread, Option.map_some]
      rw [show (year.natAbs : Int) = year by omega]

theorem fraction?_padded {width n : Nat} (hn : (Text.Decimal.ofNat n).length ≤ width)
    (hwidth : width ≤ 9) :
    fraction? ('.' :: (Text.Decimal.padded width n ++ ['Z'])) =
      some (n * Nat.pow 10 (9 - width), ['Z']) := by
  have hread : digits? 9 (Text.Decimal.padded width n ++ ['Z']) = some (n, ['Z']) := by
    rw [digits?_append (Text.Decimal.padded_ne_nil width n)
      (fun _ => Text.Decimal.isDigit_of_mem_padded)
      (by rw [Text.Decimal.length_padded hn]; exact hwidth) (.inr (by simp)),
      Text.Decimal.value_padded]
  simp [fraction?, hread, Text.Decimal.length_padded hn]

theorem fraction?_printFraction {nanos : Nat} (h : nanos < 1000000000) :
    fraction? (printFraction nanos ++ ['Z']) = some (nanos, ['Z']) := by
  have hlength {width n : Nat} (hwidth : 0 < width) (hn : n < Nat.pow 10 width) :
      (Text.Decimal.ofNat n).length ≤ width :=
    (Nat.length_toDigits_le_iff (by decide) hwidth).mpr hn
  rw [printFraction]
  split
  · rename_i hzero
    rw [hzero]
    rfl
  · split
    · rw [List.cons_append, fraction?_padded (hlength (by decide) (by simp; omega)) (by decide)]
      have hmillis : nanos / 1000000 * 1000000 = nanos := by omega
      exact congrArg (fun n => some (n, ['Z'])) hmillis
    · split
      · rw [List.cons_append, fraction?_padded (hlength (by decide) (by simp; omega)) (by decide)]
        have hmicros : nanos / 1000 * 1000 = nanos := by omega
        exact congrArg (fun n => some (n, ['Z'])) hmicros
      · rw [List.cons_append, fraction?_padded (hlength (by decide) h) (by decide)]
        exact congrArg (fun n => some (n, ['Z'])) (Nat.mul_one nanos)

/-- No month and no day needs more than two digits. -/
theorem date_lt_hundred (d : Date) : d.month < 100 ∧ d.day < 100 := by
  have hvalid := d.valid
  have hdays : daysIn d.year d.month ≤ 31 := by
    unfold daysIn
    repeat' split
    all_goals omega
  simp only [isDate, Bool.and_eq_true, decide_eq_true_eq] at hvalid
  omega

theorem ofLocal?_zero (t : Stamp) :
    ofLocal? t.date t.hour t.minute t.second t.nanos 0 = some t := by
  have hhour := t.hour.isLt
  have hminute := t.minute.isLt
  have hday : ¬ (60 * (t.hour : Int) + (t.minute : Int) - 0 < 0) ∧
      ¬ (1440 ≤ 60 * (t.hour : Int) + (t.minute : Int) - 0) := by omega
  have hofDay : ((60 * (t.hour : Int) + (t.minute : Int) - 0) % 1440).toNat =
      60 * (t.hour : Nat) + t.minute := by omega
  have hhours : (60 * (t.hour : Nat) + t.minute) / 60 = t.hour := by omega
  have hminutes : (60 * (t.hour : Nat) + t.minute) % 60 = t.minute := by omega
  rw [ofLocal?, if_pos ⟨hhour, hminute, by decide, by decide⟩]
  simp only [hday.1, hday.2, if_false, hofDay, hhours, hminutes]
  rw [dif_pos ⟨t.second.isLt, t.nanos.isLt⟩]
  simp only [Option.map_some, Fin.ofNat_val_eq_self]

theorem parse?_print (t : Stamp) : parse? t.print = some t := by
  have hprint : t.print = printYear t.date.year ++ '-' :: (Text.Decimal.padded 2 t.date.month ++
      '-' :: (Text.Decimal.padded 2 t.date.day ++ 'T' :: (Text.Decimal.padded 2 t.hour ++
      ':' :: (Text.Decimal.padded 2 t.minute ++ ':' :: (Text.Decimal.padded 2 t.second ++
      (printFraction t.nanos ++ ['Z'])))))) := by
    simp [print]
  obtain ⟨hmonth, hday⟩ := date_lt_hundred t.date
  have hdate : Date.of? t.date.year t.date.month t.date.day = some t.date := dif_pos t.date.valid
  have hhour : (t.hour : Nat) < 100 := by omega
  have hminute : (t.minute : Nat) < 100 := by omega
  have hsecond : (t.second : Nat) < 100 := by omega
  have hzone : offset? (Text.trimLeft ['Z']) = some (0, []) := by decide
  have hdash := mark?_cons (show Text.isBlank '-' = false by decide)
  have hcolon := mark?_cons (show Text.isBlank ':' = false by decide)
  rw [hprint]
  refine Option.bind_eq_some_iff.mpr ⟨_, year?_printYear t.date.year _, ?_⟩
  refine Option.bind_eq_some_iff.mpr ⟨_, hdash _, ?_⟩
  refine Option.bind_eq_some_iff.mpr ⟨_, field?_two hmonth _, ?_⟩
  refine Option.bind_eq_some_iff.mpr ⟨_, hdash _, ?_⟩
  refine Option.bind_eq_some_iff.mpr ⟨_, field?_two hday _, ?_⟩
  refine Option.bind_eq_some_iff.mpr ⟨_, rfl, ?_⟩
  refine Option.bind_eq_some_iff.mpr ⟨_, field?_two hhour _, ?_⟩
  refine Option.bind_eq_some_iff.mpr ⟨_, hcolon _, ?_⟩
  refine Option.bind_eq_some_iff.mpr ⟨_, field?_two hminute _, ?_⟩
  refine Option.bind_eq_some_iff.mpr ⟨_, hcolon _, ?_⟩
  refine Option.bind_eq_some_iff.mpr ⟨_, field?_two hsecond _, ?_⟩
  refine Option.bind_eq_some_iff.mpr ⟨_, fraction?_printFraction t.nanos.isLt, ?_⟩
  refine Option.bind_eq_some_iff.mpr ⟨_, hzone, ?_⟩
  exact Option.bind_eq_some_iff.mpr ⟨_, hdate, ofLocal?_zero t⟩

end CallHistory.Stamp
