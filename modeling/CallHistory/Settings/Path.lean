import CallHistory.Settings.Tree
import CallHistory.Text.Decimal

/-! # Paths of settings

A path is written as a name, followed by further names after points and by places in brackets.
-/

namespace CallHistory.Settings.Path

def isNameChar (c : Char) : Bool :=
  c.isAlphanum || c = ' ' || c = '_' || c = '-'

def name? (s : List Char) : Option (Tree.Step × List Char) :=
  let name := s.takeWhile isNameChar
  if name.isEmpty then none else some (.name (.ofList name), s.dropWhile isNameChar)

def isSpace (c : Char) : Bool := c = ' ' || c = '\t'

/-- A place after its opening bracket, and what follows the closing one. -/
def place? (s : List Char) : Option (Tree.Step × List Char) :=
  let s := s.dropWhile isSpace
  let (down, s) := match s with
    | '-' :: s => (true, s)
    | s => (false, s)
  let digits := s.takeWhile Char.isDigit
  let n := Text.Decimal.value digits
  match (s.dropWhile Char.isDigit).dropWhile isSpace with
  | ']' :: rest =>
    let place : Int := if down then -n else n
    if digits.isEmpty || place < Int64.minValue.toInt || Int64.maxValue.toInt < place then none
    else some (.place place, rest)
  | _ => none

/-- At most `fuel` further steps up to the end of a text. -/
def steps? : Nat → List Char → Option (List Tree.Step)
  | _, [] => some []
  | 0, _ => none
  | fuel + 1, '.' :: s => do
    let (step, rest) ← name? s
    return step :: (← steps? fuel rest)
  | fuel + 1, '[' :: s => do
    let (step, rest) ← place? s
    return step :: (← steps? fuel rest)
  | _, _ => none

def parse? (s : List Char) : Option (List Tree.Step) := do
  let (step, rest) ← name? s
  return step :: (← steps? rest.length rest)

/-- The path that a key stands for: a key that is not written as one is a single name. -/
def ofKey (key : String) : List Tree.Step :=
  (parse? key.toList).getD [.name key]

end CallHistory.Settings.Path
