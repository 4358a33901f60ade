import Mathlib.Data.Rat.Floor
import Mathlib.Tactic.FieldSimp
import Mathlib.Tactic.Ring
import CallHistory.Proofs.Time.Days
import CallHistory.Proofs.Time.Roundtrip

/-! # Instants

A text has a date and a time of day as they were where it was written, and how far that is ahead of
universal time. The stamp that is read from it is the same instant in universal time, down to whole
nanoseconds; nothing else of the text is left in it.
-/

namespace CallHistory

namespace Text.Decimal

theorem value_append (ds es : List Char) :
    value (ds ++ es) = 10 ^ es.length * value ds + value es := by
  rw [value, Nat.ofDigitChars_append, Nat.ofDigitChars_eq_ofDigitChars_zero]
  rfl

theorem value_lt {ds : List Char} (h : ∀ c ∈ ds, c.isDigit = true) :
    value ds < 10 ^ ds.length := by
  induction ds with
  | nil => decide
  | cons c ds ih =>
    obtain ⟨hc, hds⟩ := List.forall_mem_cons.mp h
    have hrest := ih hds
    have hdigit : value [c] ≤ 9 := by
      have hcode : 48 ≤ c.toNat ∧ c.toNat ≤ 57 := Char.isDigit_iff_toNat.mp hc
      change 10 * 0 + (c.toNat - 48) ≤ 9
      omega
    have hfirst := Nat.mul_le_mul_left (10 ^ ds.length) hdigit
    have happend := value_append [c] ds
    rw [List.singleton_append] at happend
    rw [happend, List.length_cons, Nat.pow_succ]
    omega

/-- The first digits have the value of all of them without the last places. -/
theorem value_take {ds : List Char} (h : ∀ c ∈ ds, c.isDigit = true) (k : Nat) :
    value (ds.take k) = value ds / 10 ^ (ds.length - k) := by
  have happend := value_append (ds.take k) (ds.drop k)
  have hlast := @value_lt (ds.drop k) fun c hc => h c (List.mem_of_mem_drop hc)
  rw [List.take_append_drop, List.length_drop] at happend
  rw [List.length_drop] at hlast
  rw [happend, Nat.mul_add_div (Nat.pow_pos (by decide)), Nat.div_eq_of_lt hlast, Nat.add_zero]

end Text.Decimal

namespace Stamp

structure Fraction where
  digits : List Char
  isDigit : ∀ c ∈ digits, c.isDigit = true

namespace Fraction

def value (f : Fraction) : ℚ := Text.Decimal.value f.digits / 10 ^ f.digits.length

/-- The nanoseconds of the first nine digits. -/
def nanos (f : Fraction) : Nat :=
  Text.Decimal.value (f.digits.take 9) * 10 ^ (9 - (f.digits.take 9).length)

theorem nanos_eq (f : Fraction) :
    f.nanos = Text.Decimal.value f.digits * 1000000000 / 10 ^ f.digits.length := by
  rw [nanos, Text.Decimal.value_take f.isDigit, List.length_take]
  rcases Nat.le_total f.digits.length 9 with hfew | hmany
  · rw [Nat.min_eq_right hfew, Nat.sub_eq_zero_of_le hfew, pow_zero, Nat.div_one]
    have hnine : 1000000000 = 10 ^ (9 - f.digits.length) * 10 ^ f.digits.length := by
      rw [← pow_add, Nat.sub_add_cancel hfew]
      rfl
    rw [hnine, ← mul_assoc, Nat.mul_div_cancel _ (Nat.pow_pos (by decide))]
  · rw [Nat.min_eq_left hmany, Nat.sub_self, pow_zero, Nat.mul_one]
    have hlength : 10 ^ f.digits.length = 10 ^ (f.digits.length - 9) * 1000000000 := by
      rw [show 1000000000 = 10 ^ 9 from rfl, ← pow_add, Nat.sub_add_cancel hmany]
    rw [hlength, Nat.mul_div_mul_right _ _ (by decide)]

theorem nanos_eq_floor (f : Fraction) : (f.nanos : Int) = ⌊f.value * 1000000000⌋ := by
  have hquotient : f.value * 1000000000 = ((Text.Decimal.value f.digits * 1000000000 : Nat) : Int) /
      ((10 ^ f.digits.length : Nat) : ℚ) := by
    rw [value]
    push_cast
    ring
  rw [hquotient, Rat.floor_intCast_div_natCast, nanos_eq]
  push_cast
  rfl

/-- Up to nine digits are whole nanoseconds. -/
theorem nanos_eq_value {f : Fraction} (h : f.digits.length ≤ 9) :
    (f.nanos : ℚ) = f.value * 1000000000 := by
  rw [nanos, List.take_of_length_le h, value]
  have hnine : (10 : ℚ) ^ (9 - f.digits.length) * 10 ^ f.digits.length = 1000000000 := by
    rw [← pow_add, Nat.sub_add_cancel h]
    norm_num
  rw [← hnine]
  push_cast
  field_simp

end Fraction

/-- A stamp as a text has it. The time of day is so many minutes ahead of universal time. -/
structure Local where
  date : Date
  hour : Nat
  minute : Nat
  second : Nat
  fraction : Fraction
  ahead : Int

def Local.seconds (t : Local) : ℚ :=
  86400 * t.date.toDay + 3600 * t.hour + 60 * t.minute + t.second - 60 * t.ahead + t.fraction.value

def toNanos (t : Stamp) : Int :=
  (86400 * t.date.toDay + 3600 * t.hour + 60 * t.minute + t.second) * 1000000000 + t.nanos

def readFraction? : List Char → Option (Fraction × List Char)
  | '.' :: s =>
    if (s.takeWhile Char.isDigit).isEmpty then none
    else some (⟨s.takeWhile Char.isDigit, List.all_eq_true.mp List.all_takeWhile⟩,
      s.dropWhile Char.isDigit)
  | s => some (⟨[], List.forall_mem_nil _⟩, s)

def separator? : List Char → Option (List Char)
  | 't' :: s | 'T' :: s | ' ' :: s => some s
  | _ => none

def read? (s : List Char) : Option Local := do
  let (year, s) ← year? s
  let s ← mark? '-' s
  let (month, s) ← field? 2 s
  let s ← mark? '-' s
  let (day, s) ← field? 2 s
  let s ← separator? s
  let (hour, s) ← field? 2 s
  let s ← mark? ':' s
  let (minute, s) ← field? 2 s
  let s ← mark? ':' s
  let (second, s) ← field? 2 s
  let (fraction, s) ← readFraction? s
  let (ahead, s) ← offset? (Text.trimLeft s)
  if Text.trimLeft s ≠ [] then none
  else
    let date ← Date.of? year month day
    return ⟨date, hour, minute, second, fraction, ahead⟩

def Local.toStamp? (t : Local) : Option Stamp :=
  ofLocal? t.date t.hour t.minute t.second t.fraction.nanos t.ahead

theorem takeWhile_take (p : Char → Bool) (k : Nat) (s : List Char) :
    (s.take k).takeWhile p = (s.takeWhile p).take k := by
  induction s generalizing k with
  | nil => simp
  | cons c s ih =>
    cases k with
    | zero => rfl
    | succ k => by_cases hc : p c = true <;> simp [hc, ih]

/-- Nine digits are read of a fraction, and those behind them are passed over. -/
theorem fraction?_point (s : List Char) :
    fraction? ('.' :: s) = (readFraction? ('.' :: s)).map fun (f, rest) => (f.nanos, rest) := by
  have hsplit : s = s.takeWhile Char.isDigit ++ s.dropWhile Char.isDigit :=
    List.takeWhile_append_dropWhile.symm
  have hds := List.all_eq_true.mp (@List.all_takeWhile _ Char.isDigit s)
  have hrest : ∀ c ∈ (s.dropWhile Char.isDigit).head?, c.isDigit = false := by
    intro c hc
    have hstop := List.head?_dropWhile_not Char.isDigit s
    rw [hc] at hstop
    simpa using hstop
  have hsame : (readFraction? ('.' :: s)).map (fun (f, rest) => (f.nanos, rest)) =
      if (s.takeWhile Char.isDigit).isEmpty then none
      else some (Text.Decimal.value ((s.takeWhile Char.isDigit).take 9) *
        10 ^ (9 - ((s.takeWhile Char.isDigit).take 9).length), s.dropWhile Char.isDigit) := by
    rw [readFraction?]
    split <;> rfl
  rw [hsame]
  generalize s.takeWhile Char.isDigit = ds at *
  generalize s.dropWhile Char.isDigit = rest at *
  subst hsplit
  have hread : ((ds ++ rest).take 9).takeWhile Char.isDigit = ds.take 9 := by
    rw [takeWhile_take, (Text.Decimal.span_isDigit hds hrest).1]
  have hlast : ((ds ++ rest).drop (ds.take 9).length).dropWhile Char.isDigit = rest := by
    rw [List.drop_append_of_le_length (List.length_take_le' 9 ds)]
    exact (Text.Decimal.span_isDigit (fun c hc => hds c (List.mem_of_mem_drop hc)) hrest).2
  have hwidth : (ds ++ rest).length - ((ds ++ rest).drop (ds.take 9).length).length =
      (ds.take 9).length := by
    simp only [List.length_drop, List.length_append, List.length_take]
    omega
  by_cases hnil : ds = []
  · subst hnil
    have hnone : (rest.take 9).takeWhile Char.isDigit = [] := hread
    simp [fraction?, digits?, hnone]
  · have hdigits : digits? 9 (ds ++ rest) =
        some (Text.Decimal.value (ds.take 9), (ds ++ rest).drop (ds.take 9).length) := by
      simp [digits?, hread, hnil]
    rw [fraction?, hdigits]
    change some (_ * Nat.pow 10 (9 - (_ - _)), _) = _
    rw [hwidth, hlast]
    simp [hnil]

theorem fraction?_eq_map (s : List Char) :
    fraction? s = (readFraction? s).map fun (f, rest) => (f.nanos, rest) := by
  cases s with
  | nil => rfl
  | cons c s =>
    by_cases hc : c = '.'
    · rw [hc]
      exact fraction?_point s
    · simp [fraction?, readFraction?, hc, Fraction.nanos, Text.Decimal.value]

theorem separator?_bind {α : Type} (s : List Char) (next : List Char → Option α) :
    (match s with
      | 't' :: s => (some s).bind next
      | 'T' :: s => (some s).bind next
      | ' ' :: s => (some s).bind next
      | _ => (none : Option (List Char)).bind next) = (separator? s).bind next := by
  unfold separator?
  split <;> rfl

theorem bind_step {α β γ : Type} {x : Option α} {f : α → Option γ} {g : α → Option β}
    {h : β → Option γ} (hfg : ∀ a, f a = (g a).bind h) : x.bind f = (x.bind g).bind h := by
  cases x with
  | none => rfl
  | some a => exact hfg a

/-- A stamp is read in two steps: what the text says, and what that is in universal time. -/
theorem parse?_eq_bind (s : List Char) : parse? s = (read? s).bind Local.toStamp? := by
  unfold parse? read?
  refine bind_step fun ⟨year, s⟩ => bind_step fun s => ?_
  refine bind_step fun ⟨month, s⟩ => bind_step fun s => ?_
  refine bind_step fun ⟨day, s⟩ => ?_
  refine (separator?_bind s _).trans (bind_step fun s => ?_)
  refine bind_step fun ⟨hour, s⟩ => bind_step fun s => ?_
  refine bind_step fun ⟨minute, s⟩ => bind_step fun s => ?_
  refine bind_step fun ⟨second, s⟩ => ?_
  change (fraction? s).bind _ = _
  rw [fraction?_eq_map, Option.bind_map]
  refine bind_step fun ⟨fraction, s⟩ => bind_step fun ⟨ahead, s⟩ => ?_
  simp only
  split
  · rfl
  · exact bind_step fun date => rfl

/-- The day before or after makes up for the minutes that the offset takes a time of day over
midnight. -/
theorem toDay_of_shift {date shifted : Date} {m : Int}
    (h : (if m < 0 then date.previous? else if 1440 ≤ m then date.next? else some date) =
      some shifted) (hlower : -1440 ≤ m) (hupper : m < 2880) :
    1440 * shifted.toDay + m % 1440 = 1440 * date.toDay + m := by
  split at h
  · have hday := Date.toDay_previous? h
    omega
  · split at h
    · have hday := Date.toDay_next? h
      omega
    · cases h
      omega

theorem toNanos_ofLocal? {date : Date} {hour minute second nanos : Nat} {ahead : Int} {t : Stamp}
    (h : ofLocal? date hour minute second nanos ahead = some t) :
    t.toNanos = (86400 * date.toDay + 3600 * hour + 60 * minute + second - 60 * ahead) *
      1000000000 + nanos := by
  unfold ofLocal? at h
  split at h
  · rename_i hfields
    simp only at h
    split at h
    · obtain ⟨shifted, hshifted, rfl⟩ := Option.map_eq_some_iff.mp h
      have hday := toDay_of_shift hshifted (by omega) (by omega)
      simp only [toNanos, Fin.val_ofNat]
      omega
    · cases h
  · cases h

/-- The stamp in universal time is the same instant, down to whole nanoseconds, and to the full if
there are no more than nine digits. -/
theorem toNanos_of_toStamp? {t : Local} {u : Stamp} (h : t.toStamp? = some u) :
    u.toNanos = ⌊t.seconds * 1000000000⌋ ∧
      (t.fraction.digits.length ≤ 9 → (u.toNanos : ℚ) = t.seconds * 1000000000) := by
  have hnanos := toNanos_ofLocal? h
  refine ⟨?_, fun hfew => ?_⟩
  · have hsum : t.seconds * 1000000000 =
        (((86400 * t.date.toDay + 3600 * t.hour + 60 * t.minute + t.second - 60 * t.ahead) *
          1000000000 : Int) : ℚ) + t.fraction.value * 1000000000 := by
      rw [Local.seconds]
      push_cast
      ring
    rw [hnanos, hsum, Int.floor_intCast_add, Fraction.nanos_eq_floor]
  · rw [hnanos, Local.seconds]
    push_cast
    rw [Fraction.nanos_eq_value hfew]
    ring

theorem exists_read {s : List Char} {t : Stamp} (h : parse? s = some t) :
    ∃ fields, read? s = some fields ∧ t.toNanos = ⌊fields.seconds * 1000000000⌋ ∧
      (fields.fraction.digits.length ≤ 9 → (t.toNanos : ℚ) = fields.seconds * 1000000000) := by
  rw [parse?_eq_bind] at h
  obtain ⟨fields, hfields, hstamp⟩ := Option.bind_eq_some_iff.mp h
  exact ⟨fields, hfields, toNanos_of_toStamp? hstamp⟩

end Stamp
end CallHistory
