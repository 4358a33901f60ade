import CallHistory.Text.Blank
import CallHistory.Text.Decimal
import CallHistory.Text.Search
import CallHistory.Time.Date
import CallHistory.Time.Instant

/-! # Time stamps

A stamp is a date and a time of day in universal time; the second sixty is a leap second. It is
written as `2024-01-31T23:59:59.500Z` with as many fraction digits as it needs, in groups of three.
Reading is more liberal: fields without leading zeros, white space between them, a small `t` or a
space before the time, up to nine fraction digits, and any offset from universal time.
-/

namespace CallHistory

structure Stamp where
  date : Date
  hour : Fin 24
  minute : Fin 60
  second : Fin 61
  nanos : Fin 1000000000
  deriving DecidableEq, Repr, Inhabited

namespace Stamp

/-- Years of four digits stand as they are, others with a sign and at least four digits. -/
def printYear (year : Int) : List Char :=
  let digits := Text.Decimal.padded 4 year.natAbs
  if 0 ≤ year ∧ year ≤ 9999 then digits
  else (if year < 0 then '-' else '+') :: digits

/-- The fraction of a second: no digits, or three, six or nine. -/
def printFraction (nanos : Nat) : List Char :=
  if nanos = 0 then []
  else if nanos % 1000000 = 0 then '.' :: Text.Decimal.padded 3 (nanos / 1000000)
  else if nanos % 1000 = 0 then '.' :: Text.Decimal.padded 6 (nanos / 1000)
  else '.' :: Text.Decimal.padded 9 nanos

def print (t : Stamp) : List Char :=
  let two := Text.Decimal.padded 2
  printYear t.date.year ++ '-' :: two t.date.month ++ '-' :: two t.date.day ++ 'T' :: two t.hour
    ++ ':' :: two t.minute ++ ':' :: two t.second ++ printFraction t.nanos ++ ['Z']

/-- A number of one up to `most` digits at the start of a text, and the rest. -/
def digits? (most : Nat) (s : List Char) : Option (Nat × List Char) :=
  let digits := (s.take most).takeWhile Char.isDigit
  if digits.isEmpty then none
  else some (Text.Decimal.value digits, s.drop digits.length)

def field? (most : Nat) (s : List Char) : Option (Nat × List Char) :=
  digits? most (Text.trimLeft s)

def mark? (c : Char) (s : List Char) : Option (List Char) :=
  match Text.trimLeft s with
  | d :: rest => if d = c then some rest else none
  | [] => none

/-- A year has any number of digits after a sign and up to four without. -/
def year? (s : List Char) : Option (Int × List Char) :=
  match Text.trimLeft s with
  | '-' :: rest => (digits? rest.length rest).map fun (n, rest) => (-(n : Int), rest)
  | '+' :: rest => (digits? rest.length rest).map fun (n, rest) => ((n : Int), rest)
  | rest => (digits? 4 rest).map fun (n, rest) => ((n : Int), rest)

/-- The fraction of a second, if there is one. Digits after the ninth are passed over. -/
def fraction? : List Char → Option (Nat × List Char)
  | '.' :: rest => do
    let (n, after) ← digits? 9 rest
    let width := rest.length - after.length
    return (n * Nat.pow 10 (9 - width), after.dropWhile Char.isDigit)
  | s => some (0, s)

/-- The minutes of an offset after its sign: two digits of hours and two of minutes, with colons
and white space between. -/
def span? : List Char → Option (Nat × List Char)
  | h₁ :: h₂ :: rest =>
    if h₁.isDigit && h₂.isDigit then
      match rest.dropWhile (fun c => c = ':' || Text.isBlank c) with
      | m₁ :: m₂ :: rest =>
        if m₁.isDigit && m₂.isDigit && m₁.toNat < '6'.toNat then
          some (60 * Text.Decimal.value [h₁, h₂] + Text.Decimal.value [m₁, m₂], rest)
        else none
      | _ => none
    else none
  | _ => none

/-- An offset from universal time in minutes: `Z`, `UTC`, or a sign and a span. -/
def offset? (s : List Char) : Option (Int × List Char) :=
  if (s.take 3).map Char.toLower = "utc".toList then some (0, s.drop 3)
  else
    match s with
    | 'Z' :: rest | 'z' :: rest => some (0, rest)
    | '+' :: rest => (span? rest).map fun (n, rest) => ((n : Int), rest)
    | '-' :: rest | '−' :: rest => (span? rest).map fun (n, rest) => (-(n : Int), rest)
    | _ => none

/-- The stamp of a date and a time of day that is so many minutes ahead of universal time. -/
def ofLocal? (date : Date) (hour minute second nanos : Nat) (ahead : Int) : Option Stamp :=
  if hour < 24 ∧ minute < 60 ∧ -1440 < ahead ∧ ahead < 1440 then
    let m : Int := 60 * hour + minute - ahead
    let date := if m < 0 then date.previous? else if 1440 ≤ m then date.next? else some date
    let m := (m % 1440).toNat
    if h : second < 61 ∧ nanos < 1000000000 then
      date.map fun date =>
        ⟨date, .ofNat 24 (m / 60), .ofNat 60 (m % 60), ⟨second, h.1⟩, ⟨nanos, h.2⟩⟩
    else none
  else none

def parse? (s : List Char) : Option Stamp := do
  let (year, s) ← year? s
  let s ← mark? '-' s
  let (month, s) ← field? 2 s
  let s ← mark? '-' s
  let (day, s) ← field? 2 s
  let s ← match s with
    | 't' :: s | 'T' :: s | ' ' :: s => some s
    | _ => none
  let (hour, s) ← field? 2 s
  let s ← mark? ':' s
  let (minute, s) ← field? 2 s
  let s ← mark? ':' s
  let (second, s) ← field? 2 s
  let (nanos, s) ← fraction? s
  let (ahead, s) ← offset? (Text.trimLeft s)
  if Text.trimLeft s ≠ [] then none
  else
    let date ← Date.of? year month day
    ofLocal? date hour minute second nanos ahead

def ofInstant? (t : Instant) : Option Stamp :=
  let second := t.nanos / 1000000000
  (Date.ofDay? (second / 86400)).bind fun date =>
    let ofDay := (second % 86400).toNat
    ofLocal? date (ofDay / 3600) (ofDay / 60 % 60) (ofDay % 60) (t.nanos % 1000000000).toNat 0

end Stamp
end CallHistory
