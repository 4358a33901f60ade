/-! # The SHA-1 digest

A message is filled up to whole blocks of sixteen words; each block stirs five chaining words
through eighty rounds. The window of a round holds the next sixteen words of the schedule.
-/

namespace CallHistory.Digest.Sha1

/-- The five chaining words. -/
structure Chain where
  a : UInt32
  b : UInt32
  c : UInt32
  d : UInt32
  e : UInt32

def Chain.initial : Chain :=
  ⟨0x67452301, 0xEFCDAB89, 0x98BADCFE, 0x10325476, 0xC3D2E1F0⟩

def Chain.add (x y : Chain) : Chain :=
  ⟨x.a + y.a, x.b + y.b, x.c + y.c, x.d + y.d, x.e + y.e⟩

def Chain.words (x : Chain) : List UInt32 :=
  [x.a, x.b, x.c, x.d, x.e]

def rotate (x n : UInt32) : UInt32 :=
  (x <<< n) ||| (x >>> (32 - n))

/-- What round `t` adds: a mixture of three words and the constant of its quarter. -/
def mixture (t : Nat) (b c d : UInt32) : UInt32 :=
  if t < 20 then ((b &&& c) ||| (~~~b &&& d)) + 0x5A827999
  else if t < 40 then (b ^^^ c ^^^ d) + 0x6ED9EBA1
  else if t < 60 then ((b &&& c) ||| (b &&& d) ||| (c &&& d)) + 0x8F1BBCDC
  else (b ^^^ c ^^^ d) + 0xCA62C1D6

/-- One round takes the first word of the window and puts the next word of the schedule at its
end. -/
def round (s : Chain × List UInt32) (t : Nat) : Chain × List UInt32 :=
  let (x, window) := s
  let word i := window.getD i 0
  let next := rotate (word 13 ^^^ word 8 ^^^ word 2 ^^^ word 0) 1
  (⟨rotate x.a 5 + mixture t x.b x.c x.d + x.e + word 0, x.a, rotate x.b 30, x.c, x.d⟩,
    window.tail ++ [next])

def block (x : Chain) (words : List UInt32) : Chain :=
  x.add ((List.range 80).foldl round (x, words)).1

/-- The message, a one bit, zeros up to eight bytes short of a whole block, and the length in
bits. -/
def padded (message : List UInt8) : List UInt8 :=
  let bits := 8 * message.length
  message ++ 0x80 :: List.replicate ((119 - message.length % 64) % 64) 0
    ++ (List.range 8).reverse.map fun i => .ofNat (bits >>> (8 * i))

/-- Bytes as words, the first byte of four the highest. -/
def toWords : List UInt8 → List UInt32
  | b0 :: b1 :: b2 :: b3 :: rest =>
    ((b0.toUInt32 <<< 24) ||| (b1.toUInt32 <<< 16) ||| (b2.toUInt32 <<< 8) ||| b3.toUInt32)
      :: toWords rest
  | _ => []

def blocks : Nat → Chain → List UInt32 → Chain
  | 0, x, _ => x
  | n + 1, x, words => blocks n (block x (words.take 16)) (words.drop 16)

def digest (message : List UInt8) : List UInt32 :=
  let words := toWords (padded message)
  (blocks (words.length / 16) .initial words).words

end CallHistory.Digest.Sha1
