import CallHistory.Report.Pattern.Atom
import CallHistory.Report.Pattern.Depth

/-! # Sets of characters

A set stands in brackets and lists characters, ranges, named sets and further sets. Two ampersands,
hyphens or tildes make one set of the two lists on their sides.
-/

namespace CallHistory.Report.Pattern

def setNames : List String := [
  "alnum", "alpha", "ascii", "blank", "cntrl", "digit", "graph", "lower", "print", "punct", "space",
  "upper", "word", "xdigit"]

/-- After the bracket that opens a set with a name between colons: whether a circumflex makes it the
set of all other characters, and what follows. -/
def namedSet? (s : List Char) : Option (Bool × List Char) :=
  match s with
  | ':' :: s =>
    let (negated, s) := match s with
      | '^' :: s => (true, s)
      | s => (false, s)
    let name := s.takeWhile (· ≠ ':')
    match s.dropWhile (· ≠ ':') with
    | ':' :: ']' :: rest =>
      if setNames.any (·.toList = name) then some (negated, rest) else none
    | _ => none
  | _ => none

def isNamedMember (m : Mode) (negated : Bool) : Bool :=
  if m.bytes then !negated else !m.anyCase

/-- One member of a set that is no set, and the rest. -/
def member? (m : Mode) (s : List Char) : Option (Atom × List Char) := do
  let (atom, rest) ← match s with
    | [] => none
    | '\\' :: s => escape? m s
    | c :: s => some (.char c, s)
  if atom.isMember m then some (atom, rest) else none

def range? (m : Mode) (s : List Char) : Option (List Char) := do
  let (low, rest) ← member? m s
  match m.next rest with
  | '-' :: s =>
    if m.afterHyphen? s = some ']' || m.afterHyphen? s = some '-' then some ('-' :: s)
    else
      match low, ← member? m (m.next s) with
      | .char low, (.char high, rest) => if low ≤ high then some rest else none
      | _, _ => none
  | rest => some rest

/-- A set that is being read: whether it has just begun, how deep what stands in front of its last
operator is, and the members after that. -/
structure Members where
  fresh : Bool := true
  left : Option Nat := none
  listed : Row := {}
  deriving DecidableEq, Repr

namespace Members

def add (s : Members) (depth : Nat) : Members :=
  { s with listed := s.listed.add depth }

def depth (s : Members) : Nat :=
  match s.left with
  | none => s.listed.depth
  | some left => max left s.listed.depth + 1

def operate (s : Members) : Members :=
  ⟨false, some s.depth, {}⟩

/-- Begins a set after its opening bracket; among bytes it cannot be the set of all others. -/
def open? (m : Mode) (s : List Char) : Option (List Char) :=
  match m.next s with
  | '^' :: s => if m.bytes then none else some s
  | s => some s

/-- What follows the outermost of some sets, of which the inner one is being read, and how deep that
set is. A hyphen at the start of a set stands for itself, as does a closing bracket. There are at
most `fuel` parts. -/
def close? (m : Mode) : Nat → List Members → Members → List Char → Option (Nat × List Char)
  | 0, _, _, _ => none
  | fuel + 1, outer, set, s =>
    let begun := { set with fresh := false }
    match m.next s, set.fresh, set.listed.size with
    | [], _, _ => none
    | '-' :: s, true, _ =>
      if (Atom.char '-').isMember m then close? m fuel outer (set.add 0) s else none
    | ']' :: s, true, 0 =>
      if (Atom.char ']').isMember m then close? m fuel outer (begun.add 0) s else none
    | ']' :: s, _, _ =>
      match outer with
      | [] => some (set.depth + 1, s)
      | next :: outer => close? m fuel outer (next.add (set.depth + 1)) s
    | '&' :: '&' :: s, _, _ | '-' :: '-' :: s, _, _ | '~' :: '~' :: s, _, _ =>
      close? m fuel outer begun.operate s
    | '[' :: s, _, _ =>
      match namedSet? s with
      | some (negated, s) =>
        if isNamedMember m negated then close? m fuel outer (begun.add 0) s else none
      | none => (open? m s).bind (close? m fuel (begun :: outer) {})
    | s, _, _ => (range? m s).bind (close? m fuel outer (begun.add 0))

def parse? (m : Mode) (s : List Char) : Option (Nat × List Char) :=
  (open? m s).bind (close? m (s.length + 1) [] {})

end Members
end CallHistory.Report.Pattern
