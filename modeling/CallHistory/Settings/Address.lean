import CallHistory.Text.Decimal
import CallHistory.Text.Hex
import CallHistory.Text.Search

/-! # Network addresses

An address is a host of four bytes or eight groups, and a port. The longest run of zero groups is
written as two colons, groups that wrap four bytes as those bytes, and a host of groups stands in
brackets, with its zone if it has one.
-/

namespace CallHistory

inductive Address where
  | v4 (host : List UInt8) (port : UInt16)
  | v6 (host : List UInt16) (zone : UInt32) (port : UInt16)
  deriving DecidableEq, Repr

namespace Address

def wrapped? : List UInt16 → Option (List UInt8)
  | [0, 0, 0, 0, 0, 0xFFFF, a, b] =>
    some [(a / 256).toUInt8, a.toUInt8, (b / 256).toUInt8, b.toUInt8]
  | _ => none

/-- Whether every machine can listen at a host: at all hosts, at one that leads back to the machine,
or at a group of machines. -/
def isOwnHost (host : List UInt8) : Bool :=
  host = [0, 0, 0, 0] || host = [255, 255, 255, 255]
    || host.head?.any fun b => b = 127 || (224 ≤ b && b < 240)

def isOwn : Address → Bool
  | v4 host _ => isOwnHost host
  | v6 host _ _ =>
    match wrapped? host with
    | some bytes => isOwnHost bytes
    | none => host = List.replicate 8 0 || host = List.replicate 7 0 ++ [1]

/-! ## Writing -/

def printBytes (host : List UInt8) : List Char :=
  ['.'].intercalate (host.map fun b => Text.Decimal.ofNat b.toNat)

def printGroups (host : List UInt16) : List Char :=
  [':'].intercalate (host.map fun g => Text.Hex.digits g.toNat)

def zerosAt (host : List UInt16) : Nat :=
  (host.takeWhile (· = 0)).length

/-- Where the first of the longest runs of zeros starts, and how long it is. -/
def longestZeros : List UInt16 → Nat × Nat
  | [] => (0, 0)
  | g :: rest =>
    let here := zerosAt (g :: rest)
    let (start, length) := longestZeros rest
    if length ≤ here then (0, here) else (start + 1, length)

def printHost (host : List UInt16) : List Char :=
  match wrapped? host with
  | some bytes => "::ffff:".toList ++ printBytes bytes
  | none =>
    let (start, length) := longestZeros host
    if 1 < length then
      printGroups (host.take start) ++ ':' :: ':' :: printGroups (host.drop (start + length))
    else printGroups host

def print : Address → List Char
  | v4 host port => printBytes host ++ ':' :: Text.Decimal.ofNat port.toNat
  | v6 host zone port =>
    '[' :: printHost host
      ++ (if zone = 0 then [] else '%' :: Text.Decimal.ofNat zone.toNat)
      ++ ']' :: ':' :: Text.Decimal.ofNat port.toNat

/-! ## Reading -/

def decimal? (bound : Nat) (s : List Char) : Option (Nat × List Char) :=
  let digits := s.takeWhile Char.isDigit
  let n := Text.Decimal.value digits
  if !digits.isEmpty && n < bound then some (n, s.dropWhile Char.isDigit) else none

/-- A byte: up to three digits without leading zeros. -/
def byte? (s : List Char) : Option (UInt8 × List Char) :=
  let digits := s.takeWhile Char.isDigit
  if 3 < digits.length || (digits.head? = some '0' && 1 < digits.length) then none
  else (decimal? 256 s).map fun (n, rest) => (.ofNat n, rest)

def after? (c : Char) : List Char → Option (List Char)
  | [] => none
  | d :: rest => if d = c then some rest else none

def fourBytes? (s : List Char) : Option (List UInt8 × List Char) := do
  let (a, s) ← byte? s
  let (b, s) ← byte? (← after? '.' s)
  let (c, s) ← byte? (← after? '.' s)
  let (d, s) ← byte? (← after? '.' s)
  return ([a, b, c, d], s)

def group? (s : List Char) : Option (UInt16 × List Char) :=
  let isDigit c := (Text.Hex.digit? c).isSome
  let digits := s.takeWhile isDigit
  if digits.isEmpty || 4 < digits.length then none
  else some (.ofNat (Text.Hex.value (digits.filterMap Text.Hex.digit?)), s.dropWhile isDigit)

/-- Up to `room` groups joined by colons, where four bytes may stand for the last two; whether they
did, and the rest. -/
def someGroups (first : Bool) : Nat → List Char → List UInt16 × Bool × List Char
  | 0, s => ([], false, s)
  | room + 1, s =>
    match if first then some s else after? ':' s with
    | none => ([], false, s)
    | some t =>
      match if room = 0 then none else fourBytes? t with
      | some ([a, b, c, d], rest) =>
        ([a.toUInt16 * 256 + b.toUInt16, c.toUInt16 * 256 + d.toUInt16], true, rest)
      | _ =>
        match group? t with
        | none => ([], false, s)
        | some (g, rest) =>
          let (others, ended, rest) := someGroups false room rest
          (g :: others, ended, rest)

/-- Eight groups, a run of zeros among them written as two colons at most once. -/
def host? (s : List Char) : Option (List UInt16 × List Char) :=
  match someGroups true 8 s with
  | (head, ended, rest) =>
    if head.length = 8 then some (head, rest)
    else if ended then none
    else do
      let rest ← after? ':' (← after? ':' rest)
      let (tail, _, rest) := someGroups true (7 - head.length) rest
      return (head ++ List.replicate (8 - head.length - tail.length) 0 ++ tail, rest)

def port? (s : List Char) : Option UInt16 := do
  let (n, rest) ← decimal? 65536 (← after? ':' s)
  if rest.isEmpty then some (.ofNat n) else none

def parse? (s : List Char) : Option Address :=
  match s with
  | '[' :: s => do
    let (host, s) ← host? s
    let (zone, s) := ((after? '%' s).bind (decimal? 4294967296)).getD (0, s)
    return v6 host (.ofNat zone) (← port? (← after? ']' s))
  | s => do
    let (host, s) ← fourBytes? s
    return v4 host (← port? s)

end Address
end CallHistory
