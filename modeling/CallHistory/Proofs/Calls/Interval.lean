import CallHistory.Record.Basic

/-! # The times of a call as words

Instants are bounded by the calendar, so neither the time of a call in milliseconds nor its age
leaves the range of a signed 64-bit word: the words that an entry holds are the exact numbers.
-/

namespace CallHistory

namespace Instant

theorem millis_bounds (t : Instant) :
    -8334601228800000 ≤ t.millis ∧ t.millis < 8210266876800000 := by
  have hlower := t.lower
  have hupper := t.upper
  unfold millis
  omega

/-- No two instants are further apart than the calendar is long. -/
theorem millisUntil_bounds (t u : Instant) :
    -16544868105600000 ≤ t.millisUntil u ∧ t.millisUntil u ≤ 16544868105600000 := by
  have ht := t.lower
  have ht' := t.upper
  have hu := u.lower
  have hu' := u.upper
  unfold millisUntil
  rw [Int.tdiv_eq_ediv]
  split
  · omega
  · simp only [Int.sign]
    omega

theorem toInt_millis (t : Instant) : (Int64.ofInt t.millis).toInt = t.millis := by
  have h := t.millis_bounds
  exact Int64.toInt_ofInt_of_le (by omega) (by omega)

end Instant

namespace Call

theorem age_bounds (c : Call) (now : Instant) : 0 ≤ c.age now ∧ c.age now ≤ 16544868105600000 := by
  have h := c.created.millisUntil_bounds (c.ended.getD now)
  unfold age
  omega

theorem toInt_age (c : Call) (now : Instant) : (Int64.ofInt (c.age now)).toInt = c.age now := by
  have h := c.age_bounds now
  exact Int64.toInt_ofInt_of_le (by omega) (by omega)

end Call

namespace Record

theorem toInt_wholeSeconds (age : Int64) :
    (wholeSeconds age).toInt = max age.toInt 0 / 1000 := by
  have hage := age.toInt_lt
  exact Int64.toInt_ofInt_of_le (by omega) (by omega)

theorem toInt_wholeSeconds_age (c : Call) (now : Instant) :
    (wholeSeconds (.ofInt (c.age now))).toInt = c.age now / 1000 := by
  have h := c.age_bounds now
  have hmax : max (c.age now) 0 = c.age now := by omega
  rw [toInt_wholeSeconds, c.toInt_age now, hmax]

end Record
end CallHistory
