/-! # Dates

Dates of the Gregorian calendar, carried on before its introduction, with a year zero. The calendar
reaches from the year -262143 to the year 262142. `Date.toDay` counts days from the start of 1970.
-/

namespace CallHistory

def isLeap (year : Int) : Bool :=
  year % 4 = 0 && (year % 100 ≠ 0 || year % 400 = 0)

def daysIn (year : Int) : Nat → Nat
  | 2 => if isLeap year then 29 else 28
  | 4 | 6 | 9 | 11 => 30
  | _ => 31

def isDate (year : Int) (month day : Nat) : Bool :=
  -262143 ≤ year && year ≤ 262142 && 1 ≤ month && month ≤ 12 && 1 ≤ day && day ≤ daysIn year month

structure Date where
  year : Int
  month : Nat
  day : Nat
  valid : isDate year month day = true
  deriving DecidableEq

namespace Date

instance : Repr Date := ⟨fun d p => reprPrec (d.year, d.month, d.day) p⟩

instance : Inhabited Date := ⟨⟨1970, 1, 1, by decide⟩⟩

def of? (year : Int) (month day : Nat) : Option Date :=
  if h : isDate year month day = true then some ⟨year, month, day, h⟩ else none

/-- The day after, unless the calendar ends. -/
def next? (d : Date) : Option Date :=
  if d.day < daysIn d.year d.month then of? d.year d.month (d.day + 1)
  else if d.month < 12 then of? d.year (d.month + 1) 1
  else of? (d.year + 1) 1 1

def previous? (d : Date) : Option Date :=
  if 1 < d.day then of? d.year d.month (d.day - 1)
  else if 1 < d.month then of? d.year (d.month - 1) (daysIn d.year (d.month - 1))
  else of? (d.year - 1) 12 31

/-- Days since the start of 1970. A year is counted from March on, so that a leap day is its
last. -/
def toDay (d : Date) : Int :=
  let late : Bool := 2 < d.month
  let year := if late then d.year else d.year - 1
  let month := if late then (d.month : Int) - 3 else d.month + 9
  let before := 365 * year + year / 4 - year / 100 + year / 400
  before + (153 * month + 2) / 5 + d.day - 1 - 719468

/-- The date of a day counted from the start of 1970, if the calendar reaches it. A cycle of four
hundred years has 146097 days. -/
def ofDay? (n : Int) : Option Date :=
  let z := n + 719468
  let cycle := z / 146097
  let day := z % 146097
  let year := (day - day / 1460 + day / 36524 - day / 146096) / 365
  let day := day - (365 * year + year / 4 - year / 100)
  let month := (5 * day + 2) / 153
  let ofMonth := day - (153 * month + 2) / 5 + 1
  let late := month < 10
  of? (year + 400 * cycle + if late then 0 else 1)
    (if late then month + 3 else month - 9).toNat ofMonth.toNat

end Date
end CallHistory
