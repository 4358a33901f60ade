import CallHistory.Proofs.Calls.Handing
import CallHistory.Proofs.Calls.Interval

/-! # The interval of an entry

An entry tells when a call began, in whole milliseconds, and how many whole seconds it lasted. Both are
rounded on their own, so the interval stops short of the end of the call, by a second at the most. On
the way to the two no number leaves the range of a signed 64-bit word, also where milliseconds are
counted as a thousand for each second and those of the rest.
-/

namespace CallHistory

def word? (n : Int) : Option Int64 :=
  if Int64.minValue.toInt ≤ n ∧ n ≤ Int64.maxValue.toInt then some (.ofInt n) else none

theorem word?_of_bounds {n : Int} (hlow : -9223372036854775808 ≤ n)
    (hhigh : n ≤ 9223372036854775807) : word? n = some (.ofInt n) ∧ (Int64.ofInt n).toInt = n :=
  ⟨if_pos ⟨hlow, hhigh⟩, Int64.toInt_ofInt_of_le (by omega) (by omega)⟩

namespace Instant

variable {t u v : Instant}

/-! ## Roundings -/

/-- Two times that are rounded down are as far apart as they were before, rounded down, or one
millisecond further. -/
theorem millis_sub_millis (h : t.nanos ≤ u.nanos) :
    t.millisUntil u ≤ u.millis - t.millis ∧ u.millis - t.millis ≤ t.millisUntil u + 1 := by
  have hdown : t.millisUntil u = (u.nanos - t.nanos) / 1000000 :=
    Int.tdiv_eq_ediv_of_nonneg (by omega)
  rw [hdown]
  unfold millis
  omega

theorem millisUntil_nonneg (h : t.nanos ≤ u.nanos) : 0 ≤ t.millisUntil u :=
  Int.tdiv_nonneg (by omega) (by decide)

theorem millisUntil_mono (h : u.nanos ≤ v.nanos) : t.millisUntil u ≤ t.millisUntil v :=
  Int.tdiv_le_tdiv (by decide) (by omega)

theorem millisUntil_nonpos (h : u.nanos ≤ t.nanos) : t.millisUntil u ≤ 0 := by
  have hself : t.millisUntil t = 0 := by simp [millisUntil]
  rw [← hself]
  exact millisUntil_mono h

/-- Whole seconds and the milliseconds of the rest make up the whole milliseconds, as all of them are
rounded toward zero. -/
theorem tdiv_by_seconds (n : Int) :
    n.tdiv 1000000000 * 1000 + (n.tmod 1000000000).tdiv 1000000 = n.tdiv 1000000 := by
  have hnat (k : Nat) : (k : Int).tdiv 1000000000 * 1000 + ((k : Int).tmod 1000000000).tdiv 1000000 =
      (k : Int).tdiv 1000000 := by
    rw [Int.tdiv_eq_ediv_of_nonneg (by omega), Int.tmod_eq_emod_of_nonneg (by omega),
      Int.tdiv_eq_ediv_of_nonneg (by omega), Int.tdiv_eq_ediv_of_nonneg (by omega)]
    omega
  obtain ⟨k, rfl | rfl⟩ := n.eq_nat_or_neg
  · exact hnat k
  · have h := hnat k
    rw [Int.neg_tdiv, Int.neg_tdiv, Int.neg_tmod, Int.neg_tdiv]
    omega

theorem natAbs_tdiv_seconds_le (n : Int) :
    (n.tdiv 1000000000 * 1000).natAbs ≤ (n.tdiv 1000000).natAbs := by
  rw [Int.natAbs_mul, Int.natAbs_tdiv, Int.natAbs_tdiv]
  change n.natAbs / 1000000000 * 1000 ≤ n.natAbs / 1000000
  omega

/-! ## Milliseconds in words -/

/-- Milliseconds since the start of 1970, by way of the whole seconds. -/
def millisInWords? (t : Instant) : Option Int64 := do
  let seconds ← word? (t.nanos / 1000000000)
  let thousands ← word? (seconds.toInt * 1000)
  word? (thousands.toInt + t.nanos % 1000000000 / 1000000)

def millisUntilInWords? (t u : Instant) : Option Int64 := do
  let gap := u.nanos - t.nanos
  let seconds ← word? (gap.tdiv 1000000000)
  let thousands ← word? (seconds.toInt * 1000)
  word? (thousands.toInt + (gap.tmod 1000000000).tdiv 1000000)

theorem millisInWords?_eq (t : Instant) : t.millisInWords? = some (.ofInt t.millis) := by
  have hlower := t.lower
  have hupper := t.upper
  have hbounds := t.millis_bounds
  have hsum : t.nanos / 1000000000 * 1000 + t.nanos % 1000000000 / 1000000 = t.millis := by
    unfold millis
    omega
  obtain ⟨hseconds, htoSeconds⟩ := @word?_of_bounds (t.nanos / 1000000000) (by omega) (by omega)
  obtain ⟨hthousands, htoThousands⟩ :=
    @word?_of_bounds (t.nanos / 1000000000 * 1000) (by omega) (by omega)
  obtain ⟨hmillis, -⟩ := @word?_of_bounds t.millis (by omega) (by omega)
  simp only [millisInWords?, Option.bind_eq_bind, Option.bind_some, hseconds, htoSeconds, hthousands,
    htoThousands, hsum, hmillis]

theorem millisUntilInWords?_eq (t u : Instant) :
    t.millisUntilInWords? u = some (.ofInt (t.millisUntil u)) := by
  have hbounds := t.millisUntil_bounds u
  have hless := natAbs_tdiv_seconds_le (u.nanos - t.nanos)
  have hsum := tdiv_by_seconds (u.nanos - t.nanos)
  change _ ≤ (t.millisUntil u).natAbs at hless
  change _ = t.millisUntil u at hsum
  obtain ⟨hseconds, htoSeconds⟩ :=
    @word?_of_bounds ((u.nanos - t.nanos).tdiv 1000000000) (by omega) (by omega)
  obtain ⟨hthousands, htoThousands⟩ :=
    @word?_of_bounds ((u.nanos - t.nanos).tdiv 1000000000 * 1000) (by omega) (by omega)
  obtain ⟨hmillis, -⟩ := @word?_of_bounds (t.millisUntil u) (by omega) (by omega)
  simp only [millisUntilInWords?, Option.bind_eq_bind, Option.bind_some, hseconds, htoSeconds,
    hthousands, htoThousands, hsum, hmillis]

/-- Start and duration of the entry of a call with these times, if every number on the way is in the
range of a word. -/
def intervalInWords? (created ended : Instant) : Option (Int64 × Int64) := do
  let start ← created.millisInWords?
  let gap ← created.millisUntilInWords? ended
  let age ← word? (max gap.toInt 0)
  let duration ← word? (max age.toInt 0 / 1000)
  return (start, duration)

theorem intervalInWords?_eq (t u : Instant) :
    t.intervalInWords? u = some (.ofInt t.millis, .ofInt (max (t.millisUntil u) 0 / 1000)) := by
  have hbounds := t.millisUntil_bounds u
  obtain ⟨-, htoGap⟩ := @word?_of_bounds (t.millisUntil u) (by omega) (by omega)
  obtain ⟨hage, htoAge⟩ := @word?_of_bounds (max (t.millisUntil u) 0) (by omega) (by omega)
  obtain ⟨hduration, -⟩ := @word?_of_bounds (max (t.millisUntil u) 0 / 1000) (by omega) (by omega)
  have hsame : max (max (t.millisUntil u) 0) 0 = max (t.millisUntil u) 0 := by omega
  simp only [intervalInWords?, Option.bind_eq_bind, Option.bind_some, millisInWords?_eq,
    millisUntilInWords?_eq, htoGap, hage, htoAge, hsame, hduration]
  rfl

end Instant

/-! ## Entries -/

namespace Call

variable {c : Call} {ended : Instant}

theorem toInt_duration_ofCall (h : c.ended = some ended) (kind : CallKind) (now : Instant) :
    (Record.ofCall (c.info now) kind).duration.toInt =
      max (c.created.millisUntil ended) 0 / 1000 := by
  have hage : c.age now = max (c.created.millisUntil ended) 0 := by simp [age, h]
  have hduration := Record.toInt_wholeSeconds_age c now
  rw [hage] at hduration
  unfold Record.ofCall Record.make info
  simp only [hage]
  exact hduration

/-- The entry of a call that has an end begins at the creation of the call, rounded down to
milliseconds, and lasts until its end, at most a second less; it lasts no time if the end is before
the creation. The words of the entry are what comes out if every step is kept in the range of words,
and a later end never makes the entry shorter. -/
theorem entry_spans_call (h : c.ended = some ended) (kind : CallKind) (now : Instant) :
    let entry := Record.ofCall (c.info now) kind
    let rest := ended.millis - (entry.start.toInt + 1000 * entry.duration.toInt)
    entry.start.toInt = c.created.millis ∧
      c.created.intervalInWords? ended = some (entry.start, entry.duration) ∧
      (c.created.nanos ≤ ended.nanos → 0 ≤ rest ∧ rest ≤ 1000) ∧
      (ended.nanos < c.created.nanos → entry.duration.toInt = 0) ∧
      ∀ (c' : Call) (later : Instant), c'.created = c.created → c'.ended = some later →
        ended.nanos ≤ later.nanos → ∀ (kind' : CallKind) (now' : Instant),
          entry.duration.toInt ≤ (Record.ofCall (c'.info now') kind').duration.toInt := by
  intro entry rest
  have hstart : entry.start.toInt = c.created.millis := c.created.toInt_millis
  have hduration : entry.duration.toInt = max (c.created.millisUntil ended) 0 / 1000 :=
    toInt_duration_ofCall h kind now
  refine ⟨hstart, ?_, fun hle => ?_, fun hlt => ?_, fun c' later hcreated hended hle kind' now' => ?_⟩
  · rw [Instant.intervalInWords?_eq, ← hduration, Int64.ofInt_toInt]
    rfl
  · have hnonneg := Instant.millisUntil_nonneg hle
    have happart := Instant.millis_sub_millis hle
    omega
  · have hnonpos := Instant.millisUntil_nonpos (Int.le_of_lt hlt)
    omega
  · have hmono := @Instant.millisUntil_mono c.created _ _ hle
    rw [toInt_duration_ofCall hended, hcreated, hduration]
    omega

/-- A call begins in the last nanosecond before 1970, so its start is rounded down by almost a whole
millisecond. The roundings take a full second off its interval; at an end before its start it lasts no
time. -/
theorem entry_spans_call_full_second :
    let created : Instant := ⟨-1, by decide, by decide⟩
    let ended : Instant := ⟨61999999998, by decide, by decide⟩
    let early : Instant := ⟨-2500000000, by decide, by decide⟩
    let fresh := start default true none created
    let entry := Record.ofCall ((fresh.moved .disconnected ended).info early) .missed
    let entry' := Record.ofCall ((fresh.moved .aborted early).info ended) .incoming
    let rest := ended.millis - (entry.start.toInt + 1000 * entry.duration.toInt)
    entry.start.toInt = -1 ∧ entry.duration.toInt = 61 ∧ 0 ≤ rest ∧ rest ≤ 1000 ∧ rest = 1000 ∧
      created.intervalInWords? ended = some (entry.start, entry.duration) ∧
      entry'.duration.toInt = 0 ∧ entry'.duration.toInt ≤ entry.duration.toInt := by
  intro created ended early fresh entry entry' rest
  obtain ⟨hstart, hwords, hspans, -, -⟩ :=
    entry_spans_call (c := fresh.moved .disconnected ended) rfl .missed early
  obtain ⟨-, -, -, hnone, hlater⟩ :=
    entry_spans_call (c := fresh.moved .aborted early) rfl .incoming ended
  obtain ⟨hlow, hhigh⟩ := hspans (by decide)
  exact ⟨hstart, by decide, hlow, hhigh, by decide, hwords, hnone (by decide),
    hlater (fresh.moved .disconnected ended) ended rfl rfl (by decide) .missed early⟩

end Call
end CallHistory
