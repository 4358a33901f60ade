/-! # Instants

An instant is a number of nanoseconds since the start of 1970, within the calendar's range: from
the first day of the year -262143 to the last day of the year 262142.
-/

namespace CallHistory

structure Instant where
  nanos : Int
  lower : -8334601228800000 * 1000000 ≤ nanos := by decide
  upper : nanos < 8210266876800000 * 1000000 := by decide
  deriving DecidableEq

namespace Instant

/-- The instant so many nanoseconds after the start of 1970, if the calendar reaches it. -/
def ofNanos? (n : Int) : Option Instant :=
  if h : -8334601228800000 * 1000000 ≤ n ∧ n < 8210266876800000 * 1000000 then
    some ⟨n, h.1, h.2⟩
  else none

def ofMillis? (ms : Int) : Option Instant :=
  ofNanos? (ms * 1000000)

/-- Whole milliseconds since the start of 1970, rounded down. -/
def millis (t : Instant) : Int :=
  t.nanos / 1000000

/-- Whole milliseconds from `t` to `u`, rounded toward zero. -/
def millisUntil (t u : Instant) : Int :=
  (u.nanos - t.nanos).tdiv 1000000

instance : Repr Instant := ⟨fun t p => reprPrec t.nanos p⟩

end Instant
end CallHistory
