/-! # Ranges of characters

A class of characters is given by ranges of code points, both ends included.
-/

namespace CallHistory.Text

abbrev Ranges := List (Nat × Nat)

def Ranges.has (ranges : Ranges) (c : Char) : Bool :=
  ranges.any fun r => r.1 ≤ c.toNat && c.toNat ≤ r.2

end CallHistory.Text
