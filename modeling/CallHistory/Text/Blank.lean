import CallHistory.Text.Range

/-! # White space

The characters that leave a blank on the page, in every script.
-/

namespace CallHistory.Text

def blanks : Ranges := [
  (0x09, 0x0D), (0x20, 0x20), (0x85, 0x85), (0xA0, 0xA0), (0x1680, 0x1680), (0x2000, 0x200A),
  (0x2028, 0x2029), (0x202F, 0x202F), (0x205F, 0x205F), (0x3000, 0x3000)]

def isBlank (c : Char) : Bool :=
  blanks.has c

def trimLeft (s : List Char) : List Char :=
  s.dropWhile isBlank

def trim (s : List Char) : List Char :=
  (trimLeft (trimLeft s).reverse).reverse

end CallHistory.Text
