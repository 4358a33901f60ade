/-! # How deep an expression is

Parts of an expression stand side by side in a row, and rows stand within parts. The depth counts
the rows and the parts around the innermost one.
-/

namespace CallHistory.Report.Pattern

/-- How many parts stand side by side, and how deep the deepest of them is. -/
structure Row where
  size : Nat := 0
  deepest : Nat := 0
  deriving DecidableEq, Repr

namespace Row

def add (r : Row) (depth : Nat) : Row :=
  ⟨r.size + 1, max r.deepest depth⟩

/-- One part alone makes no row and is as deep as it is by itself. -/
def depth (r : Row) : Nat :=
  if r.size ≤ 1 then r.deepest else r.deepest + 1

end Row
end CallHistory.Report.Pattern
