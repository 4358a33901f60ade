import CallHistory.Report.Pattern.Mode
import CallHistory.Text.Hex

/-! # Characters of an expression

A character stands for itself, or it says with a backslash in front what is matched. Classes of
characters that need to know the scripts of the world are refused, and so are references back.
-/

namespace CallHistory.Report.Pattern

/-- What one part of an expression matches: a character, one of several, or a place. -/
inductive Atom where
  | char (c : Char)
  | several
  | edge
  deriving DecidableEq, Repr

namespace Atom

/-- Whether an atom may stand outside sets: letters of either case are alike among bytes only. -/
def standsAlone (m : Mode) : Atom → Bool
  | char _ => m.bytes || !m.anyCase
  | _ => true

/-- Whether an atom may be a member of a set. A set of bytes has none above the seven-bit ones. -/
def isMember (m : Mode) : Atom → Bool
  | char c => if m.bytes then c.toNat < 0x80 else !m.anyCase
  | several => true
  | edge => false

end Atom

/-- The value of `n` hexadecimal digits after the value of those before, and what follows. -/
def coded? (m : Mode) : Nat → Nat → List Char → Option (Nat × List Char)
  | 0, value, s => some (value, s)
  | n + 1, value, s =>
    match m.next s with
    | [] => none
    | c :: s => do coded? m n (16 * value + (← Text.Hex.digit? c).val) s

def codedChar? (m : Mode) (n : Nat) (s : List Char) : Option (Atom × List Char) := do
  let (value, s) ← coded? m n 0 s
  if value.isValidChar then some (.char (.ofNat value), s) else none

def escape? (m : Mode) : List Char → Option (Atom × List Char)
  | [] => none
  | c :: s =>
    match c with
    | 'd' | 's' | 'w' => if m.bytes then some (.several, s) else none
    | 'b' | 'B' | '<' | '>' => if m.bytes then some (.edge, s) else none
    | 'A' | 'z' => some (.edge, s)
    | 'x' => do
      let (atom, s) ← codedChar? m 2 s
      if !m.bytes || atom.isMember m then some (atom, s) else none
    | 'u' => codedChar? m 4 s
    | 'U' => codedChar? m 8 s
    | 'a' => some (.char '\x07', s)
    | 'f' => some (.char '\x0c', s)
    | 't' => some (.char '\t', s)
    | 'n' => some (.char '\n', s)
    | 'r' => some (.char '\r', s)
    | 'v' => some (.char '\x0b', s)
    | c => if c.toNat < 0x80 && !c.isAlphanum then some (.char c, s) else none

end CallHistory.Report.Pattern
