import CallHistory.Json.Basic
import CallHistory.Text.Hex

/-! # Writing JSON

The compact form: no space between tokens, members in order, and in strings only what has to be
escaped, with the short escape where there is one.
-/

namespace CallHistory.Json

def codeDigits (n : Nat) : List Char :=
  let digits := Text.Hex.digits n
  List.replicate (4 - digits.length) '0' ++ digits

def spell (c : Char) : List Char :=
  if c = '"' then ['\\', '"']
  else if c = '\\' then ['\\', '\\']
  else if c = '\x08' then ['\\', 'b']
  else if c = '\t' then ['\\', 't']
  else if c = '\n' then ['\\', 'n']
  else if c = '\x0c' then ['\\', 'f']
  else if c = '\r' then ['\\', 'r']
  else if c.toNat < 0x20 then '\\' :: 'u' :: codeDigits c.toNat
  else [c]

def spellPiece : Piece → List Char
  | .char c => spell c
  | .code n => '\\' :: 'u' :: codeDigits n.val

def printString (s : List Piece) : List Char :=
  '"' :: s.flatMap spellPiece ++ ['"']

/-- A numeral; what followed its whole part is not known and stands as a zero fraction. -/
def printNumeral (n : Numeral) : List Char :=
  (if n.negative then ['-'] else []) ++ Text.Decimal.ofNat n.whole
    ++ (if n.integral then [] else ['.', '0'])

mutual

def print : Json → List Char
  | .null => "null".toList
  | .bool true => "true".toList
  | .bool false => "false".toList
  | .number n => printNumeral n
  | .string s => printString s
  | .array [] => ['[', ']']
  | .array (v :: rest) => '[' :: print v ++ printItems rest
  | .object [] => ['\x7b', '\x7d']
  | .object ((name, v) :: rest) =>
    '\x7b' :: printString name ++ ':' :: print v ++ printMembers rest

def printItems : List Json → List Char
  | [] => [']']
  | v :: rest => ',' :: print v ++ printItems rest

def printMembers : List (List Piece × Json) → List Char
  | [] => ['\x7d']
  | (name, v) :: rest => ',' :: printString name ++ ':' :: print v ++ printMembers rest

end

end CallHistory.Json
