import CallHistory.Toml.Scalar

/-! # Points in time that are texts

A table of a document whose first member has a certain name is a point in time, which that member's
text spells. Such a text is more liberal than the document itself: a day may end at hour 24, and an
offset is given by any hours and minutes that are no more than a day together.
-/

namespace CallHistory.Settings.Moment

/-- The name that makes a table a point in time. -/
def name : String := "$__toml_private_datetime"

def mostOffset : Nat := 24 * 60

def offset? : List Char → Option (List Char)
  | [] => some []
  | ['Z'] | ['z'] => some ['Z']
  | mark :: s => do
    let (hours, s) ← Toml.pair? 0 99 s
    let s ← Toml.sign? ':' s
    let (minutes, s) ← Toml.pair? 0 99 s
    let total := 60 * hours + minutes
    if (mark ≠ '+' ∧ mark ≠ '-') ∨ s ≠ [] ∨ mostOffset < total then none
    else
      let mark := if total = 0 then '+' else mark
      return mark :: Text.Decimal.padded 2 (total / 60) ++ ':' :: Text.Decimal.padded 2 (total % 60)

/-- The canonical text of a date, of a time of day, or of both with an optional offset. -/
def ofText? (s : List Char) : Option (List Char) :=
  if (s.drop 2).head? = some ':' then
    match Toml.timeOf? 24 s with
    | some (time, []) => some time
    | _ => none
  else do
    let date ← Toml.dateOf? (s.take 10)
    match s.drop 10 with
    | [] => some date
    | 'T' :: s | 't' :: s | ' ' :: s =>
      let (time, rest) ← Toml.timeOf? 24 s
      return date ++ 'T' :: time ++ (← offset? rest)
    | _ => none

def ofToml? : Toml → Option String
  | .string s => (ofText? s.toList).map String.ofList
  | _ => none

def isMoment (members : List (String × Toml)) : Bool :=
  (members.head?.map (·.1)) = some name

end CallHistory.Settings.Moment
