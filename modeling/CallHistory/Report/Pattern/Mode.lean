import CallHistory.Text.Blank

/-! # How an expression is read

Flags change how the rest of an expression is read: whether letters of either case are alike,
whether it is about bytes or about characters, and whether blanks and comments may stand between
its parts.
-/

namespace CallHistory.Report.Pattern

structure Mode where
  anyCase : Bool := false
  bytes : Bool := false
  spaced : Bool := false
  deriving DecidableEq, Repr

namespace Mode

/-- Turns on or off what a flag stands for. The other flags do not change how expressions are
read. -/
def turn (on : Bool) (m : Mode) : Char → Mode
  | 'i' => { m with anyCase := on }
  | 'u' => { m with bytes := !on }
  | 'x' => { m with spaced := on }
  | _ => m

/-- The mode after some flags; those after a hyphen are turned off. -/
def change (m : Mode) (flags : List Char) : Mode :=
  let m := (flags.takeWhile (· ≠ '-')).foldl (turn true) m
  (flags.dropWhile (· ≠ '-')).foldl (turn false) m

end Mode

/-- A text without the blanks and the comments at its start; a comment goes from a number sign to
the end of the line. -/
def skip (inComment : Bool) : List Char → List Char
  | [] => []
  | c :: s =>
    if inComment then skip (c ≠ '\n') s
    else if Text.isBlank c then skip false s
    else if c = '#' then skip true s
    else c :: s

namespace Mode

def next (m : Mode) (s : List Char) : List Char :=
  if m.spaced then skip false s else s

/-- The character that decides whether a hyphen before it makes a range. Blanks are passed over here
too, but of a comment only its number sign. -/
def afterHyphen? (m : Mode) (s : List Char) : Option Char :=
  if !m.spaced then s.head?
  else
    match Text.trimLeft s with
    | '#' :: rest => (Text.trimLeft rest).head? <|> s.head?
    | rest => rest.head? <|> s.head?

end Mode
end CallHistory.Report.Pattern
