import CallHistory.Text.Hex
import CallHistory.Text.Search

/-! # Controls of terminals

A terminal takes some characters as orders. Spelled out they can be printed without harm.
-/

namespace CallHistory.Text.Control

/-- The controls below 0x80 that steer a terminal. -/
def low : List Char := ['\x07', '\x08', '\x0c', '\x1b', '\x7f']

def isHigh (c : Char) : Bool := 0x80 ≤ c.toNat && c.toNat ≤ 0x9F

def spell (c : Char) : List Char :=
  if c ∈ low then ['\\', 'x'] ++ padLeft '0' 2 (Hex.digits c.toNat)
  else if isHigh c then "\\u\x7b".toList ++ Hex.digits c.toNat ++ ['\x7d']
  else [c]

def text (s : List Char) : List Char :=
  s.flatMap spell

end CallHistory.Text.Control
