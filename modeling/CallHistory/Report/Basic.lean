import CallHistory.Report.Event

/-! # Reports

A step of the library answers, changes a state, and leaves a report: the events in order and what
was counted. Reports add up.
-/

namespace CallHistory

/-- How many records were written, failed, were dropped and were kept out. -/
@[ext]
structure Counters where
  written : UInt64 := 0
  failed : UInt64 := 0
  dropped : UInt64 := 0
  suppressed : UInt64 := 0
  deriving DecidableEq, Repr, Inhabited

namespace Counters

instance : Add Counters :=
  ⟨fun x y => ⟨x.written + y.written, x.failed + y.failed, x.dropped + y.dropped,
    x.suppressed + y.suppressed⟩⟩

@[simp] theorem add_written (x y : Counters) : (x + y).written = x.written + y.written := rfl
@[simp] theorem add_failed (x y : Counters) : (x + y).failed = x.failed + y.failed := rfl
@[simp] theorem add_dropped (x y : Counters) : (x + y).dropped = x.dropped + y.dropped := rfl
@[simp] theorem add_suppressed (x y : Counters) :
    (x + y).suppressed = x.suppressed + y.suppressed := rfl

theorem add_assoc (x y z : Counters) : x + y + z = x + (y + z) := by
  ext <;> simp [UInt64.add_assoc]

theorem add_comm (x y : Counters) : x + y = y + x := by
  ext1 <;> exact UInt64.add_comm _ _

@[simp] theorem add_none (x : Counters) : x + ({} : Counters) = x := by
  ext <;> simp

@[simp] theorem none_add (x : Counters) : ({} : Counters) + x = x := by
  ext <;> simp

def named (c : Counters) : List (String × UInt64) :=
  [("call_log_records_written_total", c.written), ("call_log_records_failed_total", c.failed),
    ("call_log_records_dropped_total", c.dropped),
    ("call_log_records_suppressed_total", c.suppressed)]

end Counters

@[ext]
structure Report where
  events : List Report.Event := []
  counted : Counters := {}
  deriving DecidableEq, Inhabited

namespace Report

def of (events : List Event) : Report := ⟨events, {}⟩

/-- A report that counts without a word. -/
def count (c : Counters) : Report := ⟨[], c⟩

instance : Append Report := ⟨fun x y => ⟨x.events ++ y.events, x.counted + y.counted⟩⟩

@[simp] theorem append_events (x y : Report) : (x ++ y).events = x.events ++ y.events := rfl
@[simp] theorem append_counted (x y : Report) : (x ++ y).counted = x.counted + y.counted := rfl
@[simp] theorem of_events (es : List Event) : (of es).events = es := rfl
@[simp] theorem of_counted (es : List Event) : (of es).counted = {} := rfl
@[simp] theorem count_events (c : Counters) : (count c).events = [] := rfl
@[simp] theorem count_counted (c : Counters) : (count c).counted = c := rfl

@[simp] theorem append_empty (x : Report) : x ++ ({} : Report) = x := by
  ext1 <;> simp

@[simp] theorem empty_append (x : Report) : ({} : Report) ++ x = x := by
  ext1 <;> simp

theorem append_assoc (x y z : Report) : x ++ y ++ z = x ++ (y ++ z) := by
  ext1 <;> simp [Counters.add_assoc]

end Report

/-- The outcome of a step: its answer, the state after it and its report. -/
structure Step (σ α : Type) where
  answer : α
  state : σ
  report : Report := {}

end CallHistory
