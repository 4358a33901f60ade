import CallHistory.Report.Pattern.Group
import CallHistory.Report.Pattern.Members
import CallHistory.Text.Decimal

/-! # Patterns of values

A value of a field can be described by a number or by a regular expression. This module tells
whether a text is such a description; whether a value matches it is not asked. An expression must
not be too deep, and it cannot look around or refer back.
-/

namespace CallHistory.Report.Pattern

/-! ## Numbers -/

def digits (s : List Char) : List Char × List Char :=
  (s.takeWhile Char.isDigit, s.dropWhile Char.isDigit)

def isExponent : List Char → Bool
  | [] => true
  | c :: s =>
    let s := match s with
      | '+' :: s | '-' :: s => s
      | s => s
    (c = 'e' || c = 'E') && !s.isEmpty && s.all Char.isDigit

def isNumeral (s : List Char) : Bool :=
  let word := s.map Char.toLower
  let (whole, rest) := digits s
  let (fraction, rest) := match rest with
    | '.' :: rest => digits rest
    | rest => ([], rest)
  ["inf", "infinity", "nan"].any (·.toList = word)
    || (!(whole ++ fraction).isEmpty && isExponent rest)

/-! ## Expressions -/

/-- A group that is being read: the branches that are finished, the parts of the one that is not,
and how deep its last part is, if that part may be repeated. -/
structure Branches where
  finished : Row := {}
  parts : Row := {}
  last : Option Nat := none
  deriving DecidableEq, Repr

namespace Branches

def current (b : Branches) : Row :=
  (b.last.map b.parts.add).getD b.parts

def add (b : Branches) (depth : Nat) : Branches :=
  { b with parts := b.current, last := some depth }

/-- Puts flags at the end; there is nothing in them to repeat. -/
def addFlags (b : Branches) : Branches :=
  { b with parts := b.current.add 0, last := none }

def repeat? (b : Branches) : Option Branches :=
  b.last.map fun depth => { b with last := some (depth + 1) }

def branch (b : Branches) : Branches :=
  { finished := b.finished.add b.current.depth }

def depth (b : Branches) : Nat :=
  b.branch.finished.depth

end Branches

/-- Where the reading of an expression is: the mode, the names of groups so far, the group that is
open, and the groups around it, each with the mode that holds again after the one within it. -/
structure Progress where
  mode : Mode := {}
  names : List (List Char) := []
  inner : Branches := {}
  outer : List (Mode × Branches) := []
  deriving DecidableEq, Repr

def mostDepth : Nat := 250

namespace Progress

def add (p : Progress) (depth : Nat) : Progress :=
  { p with inner := p.inner.add depth }

def atom? (p : Progress) (a : Atom) : Option Progress :=
  if a.standsAlone p.mode then some (p.add 0) else none

def enter (p : Progress) (mode : Mode) : Progress :=
  { p with mode, inner := {}, outer := (p.mode, p.inner) :: p.outer }

/-- Goes into a group or past flags; no two groups have one name. -/
def open? (p : Progress) : Opening → Option Progress
  | .flags flags => some { p with mode := p.mode.change flags, inner := p.inner.addFlags }
  | .flagged flags => some (p.enter (p.mode.change flags))
  | .group none => some (p.enter p.mode)
  | .group (some name) =>
    if name ∈ p.names then none else some { p.enter p.mode with names := name :: p.names }

def close? (p : Progress) : Option Progress :=
  match p.outer with
  | [] => none
  | (mode, around) :: outer =>
    some { p with mode, inner := around.add (p.inner.depth + 1), outer }

/-- Goes past the part that begins with a character, and tells what follows. -/
def step? (p : Progress) (c : Char) (s : List Char) : Option (Progress × List Char) :=
  match c with
  | '(' => do
    let (opening, s) ← Opening.parse? p.mode s
    return (← p.open? opening, s)
  | ')' => p.close?.map (·, s)
  | '|' => some ({ p with inner := p.inner.branch }, s)
  | '[' => do
    let (depth, s) ← Members.parse? p.mode s
    return (p.add depth, s)
  | '?' | '*' | '+' =>
    let s := match s with
      | '?' :: s => s
      | s => s
    p.inner.repeat?.map ({ p with inner := · }, s)
  | '\\' => do
    let (atom, s) ← escape? p.mode s
    return (← p.atom? atom, s)
  | '.' => if p.mode.bytes then none else some (p.add 0, s)
  | '^' | '$' => some (p.add 0, s)
  | '{' => none
  | c => (p.atom? (.char c)).map (·, s)

def isDone (p : Progress) : Bool :=
  p.outer.isEmpty && p.inner.depth ≤ mostDepth

/-- Whether a text of at most `fuel` parts ends an expression. -/
def ends : Nat → Progress → List Char → Bool
  | fuel, p, s =>
    match fuel, p.mode.next s with
    | _, [] => p.isDone
    | 0, _ => false
    | fuel + 1, c :: s =>
      match p.step? c s with
      | none => false
      | some (p, s) => ends fuel p s

end Progress

def isExpression (s : List Char) : Bool := Progress.ends s.length {} s

end Pattern

/-- Whether a text describes values. A count in braces has no place in it. -/
def isPattern : List Char → Bool
  | '+' :: s => Pattern.isNumeral s
  | s => Pattern.isExpression s

end CallHistory.Report
