import CallHistory.Text.Hex

/-! # Unique ids

An id is thirty-two hexadecimal digits. It is written in five groups joined by hyphens, in lower
case; reading takes the plain digits, the hyphenated form, that form in braces, and that form
after `urn:uuid:`, in any letter case.
-/

namespace CallHistory

structure Uuid where
  digits : List (Fin 16)
  length_digits : digits.length = 32
  deriving DecidableEq

namespace Uuid

instance : Inhabited Uuid := ⟨⟨List.replicate 32 0, by decide⟩⟩

def ofDigits? (ds : List (Fin 16)) : Option Uuid :=
  if h : ds.length = 32 then some ⟨ds, h⟩ else none

/-- The id whose digits are those of `n`, the last one the lowest. -/
def ofNat (n : Nat) : Uuid :=
  ⟨(List.range 32).reverse.map fun i => Fin.ofNat 16 (n >>> (4 * i)), by simp⟩

/-- The id with the marks of one that was drawn at random. -/
def random (u : Uuid) : Uuid :=
  ⟨(u.digits.set 12 4).set 16 (.ofNat 16 (8 + (u.digits.getD 16 0).val % 4)), by
    simp [u.length_digits]⟩

/-- Five groups of 8, 4, 4, 4 and 12 digits. -/
def text (u : Uuid) : List Char :=
  let c := u.digits.map Text.Hex.char
  c.take 8 ++ '-' :: (c.drop 8).take 4 ++ '-' :: (c.drop 12).take 4 ++ '-' :: (c.drop 16).take 4
    ++ '-' :: c.drop 20

def ofPlain? (s : List Char) : Option Uuid :=
  (s.mapM Text.Hex.digit?).bind ofDigits?

def ofHyphenated? (s : List Char) : Option Uuid :=
  let hyphen i := s[i]? == some '-'
  if s.length = 36 && hyphen 8 && hyphen 13 && hyphen 18 && hyphen 23 then
    ofPlain? (s.take 8 ++ (s.drop 9).take 4 ++ (s.drop 14).take 4 ++ (s.drop 19).take 4
      ++ s.drop 24)
  else none

/-- The hyphenated form inside a wrapping that an id may come in. -/
def unwrap (s : List Char) : List Char :=
  if (s.take 9).map Char.toLower = "urn:uuid:".toList then s.drop 9
  else if s.head? = some '\x7b' && s.getLast? = some '\x7d' then s.tail.dropLast
  else s

def parse? (s : List Char) : Option Uuid :=
  if s.length = 32 then ofPlain? s else ofHyphenated? (unwrap s)

instance : Repr Uuid := ⟨fun u _ => String.ofList u.text⟩

end Uuid

/-- The name that a store gives to a record it has kept. -/
structure EntryId where
  uuid : Uuid
  deriving DecidableEq, Repr

namespace EntryId

def text (e : EntryId) : String :=
  "calllog:" ++ String.ofList e.uuid.text

end EntryId
end CallHistory
