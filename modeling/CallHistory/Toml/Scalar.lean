import CallHistory.Text.Hex
import CallHistory.Time.Date
import CallHistory.Toml.Basic

/-! # TOML numbers, truth values and points in time

Each of these is one word, a run of letters, digits and the marks of numbers and times; only a date
may be parted from its time by a space. Underscores may stand between two digits.
-/

namespace CallHistory.Toml

def isWordChar (c : Char) : Bool :=
  c.isAlphanum || c = '_' || c = '+' || c = '-' || c = '.' || c = ':'

/-- The digits of a run in which each underscore stands between two digits. -/
def digitsOf? (isDigit : Char → Bool) : List Char → Option (List Char)
  | [] => none
  | [c] => if isDigit c then some [c] else none
  | c :: '_' :: rest => if isDigit c then (digitsOf? isDigit rest).map (c :: ·) else none
  | c :: rest => if isDigit c then (digitsOf? isDigit rest).map (c :: ·) else none

def signOf : List Char → Bool × List Char
  | '-' :: rest => (true, rest)
  | '+' :: rest => (false, rest)
  | s => (false, s)

/-- The digits of a whole number; no other digit follows a leading zero. -/
def wholeOf? (s : List Char) : Option (List Char) :=
  (digitsOf? Char.isDigit s).bind fun digits =>
    if digits.head? = some '0' && s.length ≠ 1 then none else some digits

def valueIn (base : Nat) (s : List Char) : Option Nat :=
  let isDigit c := (Text.Hex.digit? c).any (·.val < base)
  (digitsOf? isDigit s).map fun digits =>
    (digits.filterMap Text.Hex.digit?).foldl (fun n d => base * n + d.val) 0

def integerOf? (s : List Char) : Option Int64 :=
  let value : Option Int :=
    match s with
    | '0' :: 'x' :: s => (valueIn 16 s).map Int.ofNat
    | '0' :: 'o' :: s => (valueIn 8 s).map Int.ofNat
    | '0' :: 'b' :: s => (valueIn 2 s).map Int.ofNat
    | s =>
      let (negative, s) := signOf s
      (wholeOf? s).map fun digits =>
        let n : Int := Text.Decimal.value digits
        if negative then -n else n
  value.bind fun n => if (Int64.ofInt n).toInt = n then some (.ofInt n) else none

def splitAt? (p : Char → Bool) (s : List Char) : Option (List Char × List Char) :=
  match s.dropWhile (!p ·) with
  | [] => none
  | _ :: rest => some (s.takeWhile (!p ·), rest)

def exponentOf? (s : List Char) : Option (List Char × Option Int) :=
  match splitAt? (fun c => c = 'e' || c = 'E') s with
  | none => some (s, none)
  | some (base, e) =>
    let (down, e) := signOf e
    (digitsOf? Char.isDigit e).map fun digits =>
      let n : Int := Text.Decimal.value digits
      (base, some (if down then -n else n))

def baseOf? (s : List Char) : Option (List Char × List Char) :=
  match splitAt? (· = '.') s with
  | none => (wholeOf? s).map fun whole => (whole, [])
  | some (whole, fraction) =>
    (wholeOf? whole).bind fun whole => (digitsOf? Char.isDigit fraction).map fun f => (whole, f)

/-- A real number needs a fraction or an exponent. One beyond the largest is refused. -/
def realOf? (s : List Char) : Option Real :=
  let (negative, s) := signOf s
  if s = "inf".toList then some (.infinite negative)
  else if s = "nan".toList then some .undefined
  else do
    let (base, exponent) ← exponentOf? s
    let (whole, fraction) ← baseOf? base
    let x := Real.finite negative (Text.Decimal.value (whole ++ fraction))
      (exponent.getD 0 - fraction.length)
    if (exponent.isNone && fraction.isEmpty) || (!negative && x.nearest.isNone) then none
    else some x

/-! ## Points in time -/

def pair? (low high : Nat) : List Char → Option (Nat × List Char)
  | a :: b :: rest =>
    let n := Text.Decimal.value [a, b]
    if a.isDigit && b.isDigit && low ≤ n && n ≤ high then some (n, rest) else none
  | _ => none

def sign? (c : Char) : List Char → Option (List Char)
  | [] => none
  | d :: rest => if d = c then some rest else none

/-- The text of a date of ten characters, if the calendar has it. -/
def dateOf? (s : List Char) : Option (List Char) := do
  let year := s.take 4
  let rest ← sign? '-' (s.drop 4)
  let (month, rest) ← pair? 1 12 rest
  let rest ← sign? '-' rest
  let (day, rest) ← pair? 1 31 rest
  if rest.isEmpty && year.length = 4 && year.all Char.isDigit
    && day ≤ daysIn (Text.Decimal.value year) month then some s else none

/-- The fraction of a second with at most nine digits and no zeros at its end, and what follows. -/
def secondsOf? : List Char → Option (List Char × List Char)
  | '.' :: rest =>
    let digits := rest.takeWhile Char.isDigit
    if digits.isEmpty then none
    else
      let kept := ((digits.take 9).reverse.dropWhile (· = '0')).reverse
      some (if kept.isEmpty then [] else '.' :: kept, rest.dropWhile Char.isDigit)
  | rest => some ([], rest)

def timeOf? (lastHour : Nat) (s : List Char) : Option (List Char × List Char) := do
  let (_, rest) ← pair? 0 lastHour s
  let rest ← sign? ':' rest
  let (_, rest) ← pair? 0 59 rest
  let rest ← sign? ':' rest
  let (_, rest) ← pair? 0 60 rest
  let (fraction, rest) ← secondsOf? rest
  return (s.take 8 ++ fraction, rest)

def offsetOf? : List Char → Option (List Char)
  | [] => some []
  | ['Z'] | ['z'] => some ['Z']
  | s => do
    let rest ← match s with
      | '+' :: rest | '-' :: rest => some rest
      | _ => none
    let (hours, rest) ← pair? 0 23 rest
    let rest ← sign? ':' rest
    let (minutes, rest) ← pair? 0 59 rest
    if !rest.isEmpty then none
    else if hours = 0 ∧ minutes = 0 then some "+00:00".toList
    else some s

def timeAndOffsetOf? (s : List Char) : Option (List Char) := do
  let (time, rest) ← timeOf? 23 s
  return time ++ (← offsetOf? rest)

def momentOf? (s : List Char) : Option (List Char) :=
  match s.drop 10 with
  | 'T' :: time | 't' :: time => do
    return (← dateOf? (s.take 10)) ++ 'T' :: (← timeAndOffsetOf? time)
  | _ =>
    match timeOf? 23 s with
    | some (time, []) => some time
    | _ => none

def ofWord? (s : List Char) : Option Toml :=
  if s = "true".toList then some (.boolean true)
  else if s = "false".toList then some (.boolean false)
  else
    match integerOf? s with
    | some n => some (.integer n)
    | none =>
      match realOf? s with
      | some x => some (.real x)
      | none => (momentOf? s).map fun text => .moment (.ofList text)

/-- A value that is a word, or a date and a time parted by a space; what follows it. -/
def scalar? (s : List Char) : Option (Toml × List Char) :=
  let word := s.takeWhile isWordChar
  let rest := s.dropWhile isWordChar
  match dateOf? word with
  | none => (ofWord? word).map fun v => (v, rest)
  | some date =>
    let next := (rest.drop 1).takeWhile isWordChar
    if rest.head? = some ' ' && !next.isEmpty then
      (timeAndOffsetOf? next).map fun time =>
        (.moment (.ofList (date ++ 'T' :: time)), (rest.drop 1).dropWhile isWordChar)
    else some (.moment (.ofList date), rest)

end CallHistory.Toml
