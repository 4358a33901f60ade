import CallHistory.Text.Decimal

/-! # JSON values

A value keeps its strings as they are spelled, because an escape may stand for half of a character
and half a character is no fault in a string that nobody reads. `Json.decode?` gives the characters
of a spelling; `Json.Piece.ofText` spells characters, and `decode?_ofText` says that nothing is
lost.
-/

namespace CallHistory

/-- One part of the spelling of a string: a character, or the number of an escape. -/
inductive Json.Piece where
  | char (c : Char)
  | code (n : Fin 65536)
  deriving DecidableEq, Repr

/-- A numeral: its sign and whole part, and whether a fraction or an exponent follows. -/
structure Json.Numeral where
  negative : Bool
  whole : Nat
  integral : Bool
  deriving DecidableEq, Repr

/-- A JSON value. The members of an object keep their order and may repeat a name. -/
inductive Json where
  | null
  | bool (b : Bool)
  | number (n : Json.Numeral)
  | string (s : List Json.Piece)
  | array (items : List Json)
  | object (members : List (List Json.Piece × Json))

namespace Json

instance : Inhabited Json := ⟨null⟩

namespace Piece

/-- The spelling of a text without escapes. -/
def ofText (s : List Char) : List Piece := s.map char

end Piece

/-- The first half of a character beyond the sixteen-bit codes. -/
def isHigh (n : Fin 65536) : Bool := 0xD800 ≤ n.val && n.val < 0xDC00

def isLow (n : Fin 65536) : Bool := 0xDC00 ≤ n.val && n.val < 0xE000

def join (high low : Fin 65536) : Char :=
  .ofNat (0x10000 + (high.val - 0xD800) * 0x400 + (low.val - 0xDC00))

/-- The characters of a spelling; none if half a character stands alone. -/
def decode? : List Piece → Option (List Char)
  | [] => some []
  | .char c :: rest => (decode? rest).map (c :: ·)
  | .code n :: .code m :: rest =>
    if isHigh n then
      if isLow m then (decode? rest).map (join n m :: ·) else none
    else if isLow n then none
    else (decode? (.code m :: rest)).map (.ofNat n.val :: ·)
  | .code n :: rest =>
    if isHigh n || isLow n then none else (decode? rest).map (.ofNat n.val :: ·)

@[simp] theorem decode?_ofText (s : List Char) : decode? (Piece.ofText s) = some s := by
  induction s with
  | nil => rfl
  | cons c s ih =>
    change decode? (.char c :: Piece.ofText s) = _
    simp [decode?, ih]

def ofString (s : String) : Json := string (Piece.ofText s.toList)

def ofString? : Option String → Json
  | none => null
  | some s => ofString s

def ofInt (n : Int) : Json := number ⟨n < 0, n.natAbs, true⟩

def ofMembers (members : List (String × Json)) : Json :=
  object (members.map fun m => (Piece.ofText m.1.toList, m.2))

/-- The whole number that a numeral writes; none for one with a fraction or an exponent, nor for a
negative zero. -/
def Numeral.toInt? (n : Numeral) : Option Int :=
  if !n.integral then none
  else if n.negative then (if n.whole = 0 then none else some (-n.whole))
  else some n.whole

end Json
end CallHistory
