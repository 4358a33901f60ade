import CallHistory.Text.Decimal

/-! # Binary fractions of 53 bits

The positive numbers m · 2^q with m below 2^53 and q from -1074 to 971. `nearest` rounds a quotient
to one of them, half-way cases to an even m; `shortest` gives the fewest decimal digits that are
rounded back, of two such numerals the nearer, and of two that are equally near the greater.
-/

namespace CallHistory.Number

/-- The number `mantissa` · 2^`exponent`. -/
structure Binary64 where
  mantissa : Nat
  exponent : Int
  deriving DecidableEq, Repr, Inhabited

/-- A power of `base` as numerator and denominator, by the sign of the exponent. -/
def power (base : Nat) (e : Int) : Nat × Nat :=
  if 0 ≤ e then (base.pow e.toNat, 1) else (1, base.pow (-e).toNat)

/-- A quotient rounded to a whole number, a half to the even one. -/
def roundEven (num den : Nat) : Nat :=
  let floor := num / den
  let twice := 2 * (num % den)
  if twice < den then floor
  else if den < twice then floor + 1
  else floor + floor % 2

/-- A quotient rounded to a whole number, a half up. -/
def roundUp (num den : Nat) : Nat :=
  (2 * num + den) / (2 * den)

namespace Binary64

/-- The least number of 53 bits. -/
def least : Nat := Nat.pow 2 52

/-- The exponent at which a quotient has 53 bits before the point, or the least one there is. -/
def scale (num den : Nat) : Int :=
  let guess : Int := (Nat.log2 num : Int) - Nat.log2 den - 52
  let (up, down) := power 2 guess
  max (if num * down < least * den * up then guess - 1 else guess) (-1074)

/-- The number nearest to a quotient; none if it lies beyond the largest. -/
def nearest (num den : Nat) : Option Binary64 :=
  if num = 0 then some ⟨0, -1074⟩
  else
    let q := scale num den
    let (up, down) := power 2 q
    let m := roundEven (num * down) (den * up)
    let (m, q) := if m = 2 * least then (least, q + 1) else (m, q)
    if q ≤ 971 then some ⟨m, q⟩ else none

def ofDecimal (digits : Nat) (exponent : Int) : Option Binary64 :=
  let reach : Int := (Text.Decimal.ofNat digits).length + exponent
  if digits = 0 ∨ reach < -400 then some ⟨0, -1074⟩
  else if 400 < reach then none
  else
    let (up, down) := power 10 exponent
    nearest (digits * up) down

def quotient (x : Binary64) : Nat × Nat :=
  let (up, down) := power 2 x.exponent
  (x.mantissa * up, down)

/-- The whole number nearest to a number, a half away from zero. -/
def round (x : Binary64) : Nat :=
  let (num, den) := x.quotient
  roundUp num den

/-- The least power of ten above a number, by its exponent. -/
def magnitude (x : Binary64) : Int :=
  let (num, den) := x.quotient
  let guess := ((Nat.log2 num : Int) - Nat.log2 den) * 30103 / 100000
  let above (e : Int) : Bool :=
    let (up, down) := power 10 e
    num * down < den * up
  if above (guess - 1) then guess - 1
  else if above guess then guess
  else if above (guess + 1) then guess + 1
  else guess + 2

/-- The numeral of at most `n` digits that is rounded back to a number, if there is one: its digits
and its exponent. -/
def numeral? (x : Binary64) (n : Nat) : Option (Nat × Int) :=
  let e := x.magnitude - n
  let (num, den) := x.quotient
  let (up, down) := power 10 e
  let scaled := num * down
  let unit := den * up
  let low := scaled / unit
  let back (d : Nat) : Bool := ofDecimal d e = some x
  match back low, back (low + 1) with
  | true, true => some (if 2 * (scaled % unit) < unit then low else low + 1, e)
  | true, false => some (low, e)
  | false, true => some (low + 1, e)
  | false, false => none

/-- The fewest digits that are rounded back to a number, and their exponent. -/
def shortest (x : Binary64) : Nat × Int :=
  ((List.range 18).findSome? fun n => if n = 0 then none else numeral? x n).getD (0, 0)

/-- The decimal text of a number, with no exponent and no point unless it needs one. -/
def print (x : Binary64) : List Char :=
  if x.mantissa = 0 then ['0']
  else
    let (digits, e) := x.shortest
    if 0 ≤ e then Text.Decimal.ofNat digits ++ List.replicate e.toNat '0'
    else
      let places := (-e).toNat
      let s := Text.Decimal.padded (places + 1) digits
      let whole := s.take (s.length - places)
      let fraction := ((s.drop (s.length - places)).reverse.dropWhile (· = '0')).reverse
      if fraction.isEmpty then whole else whole ++ '.' :: fraction

end Binary64
end CallHistory.Number
