/-! # Hexadecimal digits

Printing uses lower case; reading takes either case. `digit?_char` says that reading undoes
printing.
-/

namespace CallHistory.Text.Hex

def char (d : Fin 16) : Char :=
  Nat.digitChar d

/-- The digit that a character stands for, in either case. -/
def digit? (c : Char) : Option (Fin 16) :=
  (List.finRange 16).find? fun d => char d = c || (char d).toUpper = c

/-- The digits of `n` in base sixteen, the first the highest. -/
def digits (n : Nat) : List Char :=
  Nat.toDigits 16 n

def value (ds : List (Fin 16)) : Nat :=
  ds.foldl (fun n d => 16 * n + d.val) 0

@[simp] theorem digit?_char (d : Fin 16) : digit? (char d) = some d := by
  revert d; decide

end CallHistory.Text.Hex
