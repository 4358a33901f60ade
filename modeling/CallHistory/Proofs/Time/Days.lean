import CallHistory.Time.Date

/-! # Days

Dates that follow each other in the calendar are one day apart, across the ends of months and years
and over leap days.
-/

namespace CallHistory.Date

theorem of?_eq_some {year : Int} {month day : Nat} {d : Date} (h : of? year month day = some d) :
    d.year = year ∧ d.month = month ∧ d.day = day := by
  unfold of? at h
  split at h
  · cases h
    exact ⟨rfl, rfl, rfl⟩
  · cases h

/-- The first of March of a year, in days since the start of 1970. -/
def march (year : Int) : Int :=
  365 * year + year / 4 - year / 100 + year / 400 - 719468

/-- Days since the start of 1970, by year, month and day of the month. -/
def dayNumber (year : Int) (month day : Nat) : Int :=
  if 2 < month then march year + (153 * ((month : Int) - 3) + 2) / 5 + day - 1
  else march (year - 1) + (153 * ((month : Int) + 9) + 2) / 5 + day - 1

theorem toDay_eq (d : Date) : d.toDay = dayNumber d.year d.month d.day := by
  by_cases hlate : 2 < d.month
  · simp only [toDay, dayNumber, hlate, decide_true, if_true, march]
    omega
  · simp only [toDay, dayNumber, hlate, decide_false, if_false, march, Bool.false_eq_true]
    omega

/-- A year that is counted from March on has a day more if the next February has. -/
theorem march_succ (year : Int) : march year = march (year - 1) + 337 + daysIn year 2 := by
  by_cases hleap : isLeap year = true
  · simp only [daysIn, hleap, if_true, march]
    simp only [isLeap, Bool.and_eq_true, Bool.or_eq_true, decide_eq_true_eq] at hleap
    omega
  · simp only [daysIn, hleap, march, Bool.false_eq_true, if_false]
    simp only [isLeap, Bool.and_eq_true, Bool.or_eq_true, decide_eq_true_eq] at hleap
    omega

theorem dayNumber_succ (year : Int) (month day : Nat) :
    dayNumber year month (day + 1) = dayNumber year month day + 1 := by
  unfold dayNumber
  split <;> omega

theorem dayNumber_month {month : Nat} (hlower : 1 ≤ month) (hupper : month < 12) (year : Int) :
    dayNumber year (month + 1) 1 = dayNumber year month (daysIn year month) + 1 := by
  have hmonth : month ∈ [1, 2, 3, 4, 5, 6, 7, 8, 9, 10, 11] := by
    simp only [List.mem_cons, List.not_mem_nil]
    omega
  simp only [List.mem_cons, List.not_mem_nil, or_false] at hmonth
  have hmarch := march_succ year
  rcases hmonth with rfl | rfl | rfl | rfl | rfl | rfl | rfl | rfl | rfl | rfl | rfl
  case inr.inl =>
    simp only [dayNumber]
    omega
  all_goals
    simp only [daysIn, dayNumber]
    omega

theorem dayNumber_year (year : Int) : dayNumber (year + 1) 1 1 = dayNumber year 12 31 + 1 := by
  have hmarch : year + 1 - 1 = year := Int.add_sub_cancel year 1
  simp only [dayNumber, hmarch]
  omega

theorem toDay_next? {d e : Date} (h : d.next? = some e) : e.toDay = d.toDay + 1 := by
  have hvalid := d.valid
  simp only [isDate, Bool.and_eq_true, decide_eq_true_eq] at hvalid
  rw [toDay_eq, toDay_eq]
  unfold next? at h
  split at h
  · obtain ⟨hyear, hmonth, hday⟩ := of?_eq_some h
    rw [hyear, hmonth, hday, dayNumber_succ]
  · have hlast : d.day = daysIn d.year d.month := by omega
    split at h
    · rename_i hmore
      obtain ⟨hyear, hmonth, hday⟩ := of?_eq_some h
      rw [hyear, hmonth, hday, dayNumber_month (by omega) hmore, hlast]
    · have hdecember : d.month = 12 := by omega
      obtain ⟨hyear, hmonth, hday⟩ := of?_eq_some h
      rw [hyear, hmonth, hday, dayNumber_year, hlast, hdecember]
      rfl

theorem toDay_previous? {d e : Date} (h : d.previous? = some e) : e.toDay = d.toDay - 1 := by
  have hvalid := d.valid
  simp only [isDate, Bool.and_eq_true, decide_eq_true_eq] at hvalid
  rw [toDay_eq, toDay_eq]
  unfold previous? at h
  split at h
  · have hsucc := dayNumber_succ d.year d.month (d.day - 1)
    rw [Nat.sub_add_cancel (by omega)] at hsucc
    obtain ⟨hyear, hmonth, hday⟩ := of?_eq_some h
    rw [hyear, hmonth, hday]
    omega
  · have hfirst : d.day = 1 := by omega
    split at h
    · have hbefore := @dayNumber_month (d.month - 1) (by omega) (by omega) d.year
      rw [Nat.sub_add_cancel (by omega)] at hbefore
      obtain ⟨hyear, hmonth, hday⟩ := of?_eq_some h
      rw [hyear, hmonth, hday, hfirst]
      omega
    · have hjanuary : d.month = 1 := by omega
      have hbefore := dayNumber_year (d.year - 1)
      rw [Int.sub_add_cancel] at hbefore
      obtain ⟨hyear, hmonth, hday⟩ := of?_eq_some h
      rw [hyear, hmonth, hday, hfirst, hjanuary]
      omega

end CallHistory.Date
