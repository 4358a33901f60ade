import CallHistory.Number.Binary64

/-! # TOML values

A real number is kept as it was written, in decimal; `Real.nearest` is the binary number it stands
for. A point in time is kept as its canonical text.
-/

namespace CallHistory

/-- A real number, or what stands for one that is infinite or undefined. -/
inductive Toml.Real where
  | finite (negative : Bool) (digits : Nat) (exponent : Int)
  | infinite (negative : Bool)
  | undefined
  deriving DecidableEq, Repr

/-- A TOML value. The members of a table have different names. -/
inductive Toml where
  | string (s : String)
  | integer (n : Int64)
  | real (x : Toml.Real)
  | boolean (b : Bool)
  | moment (text : String)
  | array (items : List Toml)
  | table (members : List (String × Toml))

namespace Toml

instance : Inhabited Toml := ⟨table []⟩

namespace Real

/-- The binary number nearest to a real number, without its sign; none if it is infinite. -/
def nearest : Real → Option Number.Binary64
  | finite _ digits exponent => Number.Binary64.ofDecimal digits exponent
  | infinite _ | undefined => none

def isNegative : Real → Bool
  | finite negative _ _ | infinite negative => negative
  | undefined => false

def isZero (x : Real) : Bool :=
  x.nearest.any (·.mantissa = 0)

def print : Real → List Char
  | undefined => "NaN".toList
  | x => (if x.isNegative then ['-'] else [])
    ++ match x.nearest with
      | some b => b.print
      | none => "inf".toList

/-- The whole number nearest to a real number, from zero to `most`; what lies outside counts as the
nearer end. -/
def roundWithin (most : Nat) : Real → Nat
  | undefined => 0
  | x =>
    if x.isNegative then 0
    else
      match x.nearest with
      | some b => min b.round most
      | none => most

end Real
end Toml
end CallHistory
