import CallHistory.Text.Hex
import CallHistory.Text.Hidden

/-! # Quoted text

In descriptions a text stands between double quotes. Quotes, backslashes and the usual controls are
escaped with a backslash, other hidden characters by their number; all else stands as it is.
-/

namespace CallHistory.Text.Quoted

/-- Characters with an escape of their own. -/
def short? : Char → Option Char
  | '\x00' => some '0'
  | '\t' => some 't'
  | '\r' => some 'r'
  | '\n' => some 'n'
  | '\\' => some '\\'
  | '"' => some '"'
  | _ => none

def spell (c : Char) : List Char :=
  match short? c with
  | some e => ['\\', e]
  | none =>
    if isHidden c then "\\u\x7b".toList ++ Hex.digits c.toNat ++ ['\x7d'] else [c]

def text (s : List Char) : List Char :=
  '"' :: s.flatMap spell ++ ['"']

/-- A path between quotes, where single quotes are escaped too. -/
def path (s : List Char) : List Char :=
  '"' :: s.flatMap (fun c => if c = '\'' then ['\\', '\''] else spell c) ++ ['"']

end CallHistory.Text.Quoted
