/-! # Decimal numerals

Whole numbers are written without leading zeros, negative ones after a hyphen. `toNat?` reads a
sequence of digits of any length; `toNat?_ofNat` says that it undoes writing.
-/

namespace CallHistory.Text.Decimal

def ofNat (n : Nat) : List Char :=
  Nat.toDigits 10 n

def ofInt : Int → List Char
  | .ofNat n => ofNat n
  | .negSucc n => '-' :: ofNat (n + 1)

def value (digits : List Char) : Nat :=
  Nat.ofDigitChars 10 digits 0

/-- Reads a text that is one or more digits and nothing else. -/
def toNat? (s : List Char) : Option Nat :=
  if !s.isEmpty && s.all Char.isDigit then some (value s) else none

/-- The numeral filled up with zeros to at least `width` digits. -/
def padded (width n : Nat) : List Char :=
  List.replicate (width - (ofNat n).length) '0' ++ ofNat n

theorem isDigit_of_mem_ofNat {n : Nat} {c : Char} (h : c ∈ ofNat n) : c.isDigit = true :=
  Nat.isDigit_of_mem_toDigits (by decide) (by decide) h

theorem ofNat_ne_nil (n : Nat) : ofNat n ≠ [] :=
  Nat.toDigits_ne_nil

@[simp] theorem value_ofNat (n : Nat) : value (ofNat n) = n :=
  Nat.ofDigitChars_ten_toDigits

@[simp] theorem toNat?_ofNat (n : Nat) : toNat? (ofNat n) = some n := by
  have h : (ofNat n).all Char.isDigit = true :=
    List.all_eq_true.mpr fun _ => isDigit_of_mem_ofNat
  simp [toNat?, h, ofNat_ne_nil]

end CallHistory.Text.Decimal
