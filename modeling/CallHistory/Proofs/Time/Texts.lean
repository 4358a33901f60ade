import CallHistory.Proofs.Time.Instants

/-! # Texts of stamps

A text that has all its fields in full width says what its fields are, whatever letter stands between
date and time, however long its fraction is and wherever it was written. The written form of a stamp
is such a text, in universal time and with a fraction that loses nothing.
-/

namespace CallHistory.Stamp

def Fraction.text (f : Fraction) : List Char :=
  if f.digits = [] then [] else '.' :: f.digits

/-- The text of how far a time of day is ahead of universal time. -/
inductive IsZone : Int → List Char → Prop
  | universal : IsZone 0 ['Z']
  | ahead {minutes : Nat} (h : minutes < 6000) : IsZone minutes ('+' ::
      (Text.Decimal.padded 2 (minutes / 60) ++ ':' :: Text.Decimal.padded 2 (minutes % 60)))
  | behind {minutes : Nat} (h : minutes < 6000) : IsZone (-minutes) ('-' ::
      (Text.Decimal.padded 2 (minutes / 60) ++ ':' :: Text.Decimal.padded 2 (minutes % 60)))

/-- The text of a stamp with all its fields in full width. -/
def Local.text (t : Local) (separator : Char) (zone : List Char) : List Char :=
  let two := Text.Decimal.padded 2
  printYear t.date.year ++ '-' :: (two t.date.month ++ '-' :: (two t.date.day ++ separator ::
    (two t.hour ++ ':' :: (two t.minute ++ ':' :: (two t.second ++ (t.fraction.text ++ zone))))))

theorem padded_two {n : Nat} (h : n < 100) : ∃ a b, Text.Decimal.padded 2 n = [a, b] ∧
    a.isDigit = true ∧ b.isDigit = true ∧ (n < 60 → a.toNat < 54) := by
  have hall : ∀ n < 100,
      Text.Decimal.padded 2 n = [Nat.digitChar (n / 10), Nat.digitChar (n % 10)] ∧
      (Nat.digitChar (n / 10)).isDigit = true ∧ (Nat.digitChar (n % 10)).isDigit = true ∧
      (n < 60 → (Nat.digitChar (n / 10)).toNat < 54) := by decide
  exact ⟨_, _, hall n h⟩

theorem span?_padded {minutes : Nat} (h : minutes < 6000) :
    span? (Text.Decimal.padded 2 (minutes / 60) ++ ':' :: Text.Decimal.padded 2 (minutes % 60)) =
      some (minutes, []) := by
  obtain ⟨a, b, hhours, ha, hb, -⟩ := @padded_two (minutes / 60) (by omega)
  obtain ⟨c, d, hminutes, hc, hd, hsix⟩ := @padded_two (minutes % 60) (by omega)
  have hvalue := Text.Decimal.value_padded 2 (minutes / 60)
  have hvalue' := Text.Decimal.value_padded 2 (minutes % 60)
  have hcolon : c ≠ ':' := by
    rintro rfl
    cases hc
  have hblank := not_isBlank_of_isDigit hc
  rw [hhours] at hvalue ⊢
  rw [hminutes] at hvalue' ⊢
  have hsum : 60 * (minutes / 60) + minutes % 60 = minutes := Nat.div_add_mod minutes 60
  have hfirst : c.toNat < 54 := hsix (Nat.mod_lt _ (by decide))
  simp [span?, ha, hb, hc, hd, hcolon, hblank, hfirst, hvalue, hvalue', hsum]

theorem IsZone.offset? {ahead : Int} {zone : List Char} (h : IsZone ahead zone) :
    offset? (Text.trimLeft zone) = some (ahead, []) := by
  cases h with
  | universal => decide
  | ahead h =>
    rw [trimLeft_cons (by decide)]
    simp [Stamp.offset?, span?_padded h]
  | behind h =>
    rw [trimLeft_cons (by decide)]
    simp [Stamp.offset?, span?_padded h]

theorem IsZone.head? {ahead : Int} {zone : List Char} (h : IsZone ahead zone) :
    ∃ c rest, zone = c :: rest ∧ c.isDigit = false ∧ c ≠ '.' := by
  cases h <;> exact ⟨_, _, rfl, by decide, by decide⟩

theorem readFraction?_text (f : Fraction) {ahead : Int} {zone : List Char}
    (h : IsZone ahead zone) : readFraction? (f.text ++ zone) = some (f, zone) := by
  obtain ⟨c, rest, rfl, hdigit, hpoint⟩ := h.head?
  rcases f with ⟨ds, hds⟩
  by_cases hnil : ds = []
  · subst hnil
    simp [Fraction.text, readFraction?, hpoint]
  · have hstop : ∀ d ∈ (c :: rest).head?, d.isDigit = false := by
      rintro d ⟨⟩
      exact hdigit
    obtain ⟨htake, hdrop⟩ := Text.Decimal.span_isDigit hds hstop
    simp [Fraction.text, readFraction?, hnil, htake, hdrop]

theorem read?_text {t : Local} (hhour : t.hour < 100) (hminute : t.minute < 100)
    (hsecond : t.second < 100) {c : Char} (hc : c = 'T' ∨ c = 't' ∨ c = ' ') {zone : List Char}
    (hzone : IsZone t.ahead zone) : read? (t.text c zone) = some t := by
  obtain ⟨hmonth, hday⟩ := date_lt_hundred t.date
  have hdate : Date.of? t.date.year t.date.month t.date.day = some t.date := dif_pos t.date.valid
  have hdash := mark?_cons (show Text.isBlank '-' = false by decide)
  have hcolon := mark?_cons (show Text.isBlank ':' = false by decide)
  have hseparator (s : List Char) : separator? (c :: s) = some s := by
    rcases hc with rfl | rfl | rfl <;> rfl
  refine Option.bind_eq_some_iff.mpr ⟨_, year?_printYear t.date.year _, ?_⟩
  refine Option.bind_eq_some_iff.mpr ⟨_, hdash _, ?_⟩
  refine Option.bind_eq_some_iff.mpr ⟨_, field?_two hmonth _, ?_⟩
  refine Option.bind_eq_some_iff.mpr ⟨_, hdash _, ?_⟩
  refine Option.bind_eq_some_iff.mpr ⟨_, field?_two hday _, ?_⟩
  refine Option.bind_eq_some_iff.mpr ⟨_, hseparator _, ?_⟩
  refine Option.bind_eq_some_iff.mpr ⟨_, field?_two hhour _, ?_⟩
  refine Option.bind_eq_some_iff.mpr ⟨_, hcolon _, ?_⟩
  refine Option.bind_eq_some_iff.mpr ⟨_, field?_two hminute _, ?_⟩
  refine Option.bind_eq_some_iff.mpr ⟨_, hcolon _, ?_⟩
  refine Option.bind_eq_some_iff.mpr ⟨_, field?_two hsecond _, ?_⟩
  refine Option.bind_eq_some_iff.mpr ⟨_, readFraction?_text t.fraction hzone, ?_⟩
  refine Option.bind_eq_some_iff.mpr ⟨_, hzone.offset?, ?_⟩
  exact Option.bind_eq_some_iff.mpr ⟨_, hdate, rfl⟩

def Fraction.ofNanos (n : Nat) : Fraction where
  digits :=
    if n = 0 then []
    else if n % 1000000 = 0 then Text.Decimal.padded 3 (n / 1000000)
    else if n % 1000 = 0 then Text.Decimal.padded 6 (n / 1000)
    else Text.Decimal.padded 9 n
  isDigit := by
    split
    · exact List.forall_mem_nil _
    · split
      · exact fun c => Text.Decimal.isDigit_of_mem_padded
      · split <;> exact fun c => Text.Decimal.isDigit_of_mem_padded

theorem Fraction.text_ofNanos (n : Nat) : (ofNanos n).text = printFraction n := by
  have hne (width n : Nat) := Text.Decimal.padded_ne_nil width n
  unfold printFraction text ofNanos
  split
  · simp
  · split
    · simp [hne]
    · split <;> simp [hne]

/-- Nothing of a nanosecond is lost in as many digits as it needs, three by three. -/
theorem Fraction.ofNanos_spec {n : Nat} (h : n < 1000000000) :
    (ofNanos n).digits.length ∈ [0, 3, 6, 9] ∧ (ofNanos n).nanos = n := by
  have hlength {width k : Nat} (hwidth : 0 < width) (hk : k < 10 ^ width) :
      (Text.Decimal.padded width k).length = width :=
    Text.Decimal.length_padded ((Nat.length_toDigits_le_iff (by decide) hwidth).mpr hk)
  have hnanos {width k : Nat} {f : Fraction} (hf : f.digits = Text.Decimal.padded width k)
      (hwidth : 0 < width) (hnine : width ≤ 9) (hk : k < 10 ^ width) :
      f.digits.length = width ∧ f.nanos = k * 10 ^ (9 - width) := by
    have hfew := hlength hwidth hk
    rw [nanos, hf, List.take_of_length_le (by omega), hfew, Text.Decimal.value_padded]
    exact ⟨rfl, rfl⟩
  by_cases hzero : n = 0
  · subst hzero
    exact ⟨by decide, rfl⟩
  · by_cases hmillis : n % 1000000 = 0
    · obtain ⟨hwidth, hvalue⟩ := @hnanos 3 (n / 1000000) (ofNanos n)
        (by simp [ofNanos, hzero, hmillis]) (by decide) (by decide) (by omega)
      rw [hwidth, hvalue]
      exact ⟨by decide, by omega⟩
    · by_cases hmicros : n % 1000 = 0
      · obtain ⟨hwidth, hvalue⟩ := @hnanos 6 (n / 1000) (ofNanos n)
          (by simp [ofNanos, hzero, hmillis, hmicros]) (by decide) (by decide) (by omega)
        rw [hwidth, hvalue]
        exact ⟨by decide, by omega⟩
      · obtain ⟨hwidth, hvalue⟩ := @hnanos 9 n (ofNanos n)
          (by simp [ofNanos, hzero, hmillis, hmicros]) (by decide) (by decide) h
        rw [hwidth, hvalue]
        exact ⟨by decide, by omega⟩

def toLocal (t : Stamp) : Local :=
  ⟨t.date, t.hour, t.minute, t.second, .ofNanos t.nanos, 0⟩

theorem print_eq_text (t : Stamp) : t.print = t.toLocal.text 'T' ['Z'] := by
  simp [print, toLocal, Local.text, Fraction.text_ofNanos]

/-- A stamp is written with the fields of its own instant, in universal time. -/
theorem read?_print (t : Stamp) : read? t.print = some t.toLocal := by
  rw [print_eq_text]
  refine read?_text ?_ ?_ ?_ (.inl rfl) .universal
  · exact t.hour.isLt.trans (by decide)
  · exact t.minute.isLt.trans (by decide)
  · exact t.second.isLt.trans (by decide)

theorem toStamp?_toLocal (t : Stamp) : t.toLocal.toStamp? = some t := by
  rw [Local.toStamp?, toLocal, (Fraction.ofNanos_spec t.nanos.isLt).2]
  exact ofLocal?_zero t

theorem seconds_toLocal (t : Stamp) : t.toLocal.seconds * 1000000000 = t.toNanos := by
  have hfew : t.toLocal.fraction.digits.length ≤ 9 := by
    have hlength := (Fraction.ofNanos_spec t.nanos.isLt).1
    simp only [List.mem_cons, List.not_mem_nil, or_false] at hlength
    change (Fraction.ofNanos t.nanos).digits.length ≤ 9
    omega
  exact ((toNanos_of_toStamp? t.toStamp?_toLocal).2 hfew).symm

end CallHistory.Stamp
