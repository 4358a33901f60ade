import CallHistory.Json.Basic

/-! # Reading fields

A structure with known fields is read from an object, in which other names are passed over and a
known name stands at most once, or from an array of exactly its fields in order.
-/

namespace CallHistory.Json

def named? (members : List (List Piece × Json)) : Option (List (String × Json)) :=
  members.mapM fun m => (decode? m.1).map fun name => (String.ofList name, m.2)

def valuesOf (name : String) (members : List (String × Json)) : List Json :=
  (members.filter (·.1 = name)).map Prod.snd

/-- The value of a name; `none` at the outer level if it stands twice. -/
def unique? (members : List (String × Json)) (name : String) : Option (Option Json) :=
  match valuesOf name members with
  | [] => some none
  | [v] => some (some v)
  | _ => none

/-- The values of the named fields, those absent from an object as `none`. -/
def fields? (names : List String) : Json → Option (List (Option Json))
  | .object members => (named? members).bind fun ms => names.mapM (unique? ms)
  | .array items => if items.length = names.length then some (items.map some) else none
  | _ => none

def toString? : Json → Option String
  | .string s => (decode? s).map String.ofList
  | _ => none

def toIntWithin? (low high : Int) : Json → Option Int
  | .number n => n.toInt?.bind fun i => if low ≤ i ∧ i ≤ high then some i else none
  | _ => none

def toInt64? (v : Json) : Option Int64 :=
  (toIntWithin? Int64.minValue.toInt Int64.maxValue.toInt v).map Int64.ofInt

def toInt32? (v : Json) : Option Int32 :=
  (toIntWithin? Int32.minValue.toInt Int32.maxValue.toInt v).map Int32.ofInt

/-- A value that may be missing: absent and null mean none. -/
def optional? {α : Type} (read : Json → Option α) : Option Json → Option (Option α)
  | none | some .null => some none
  | some v => (read v).map some

def required? {α : Type} (read : Json → Option α) (v : Option Json) : Option α :=
  v.bind read

/-- One of several named values: its name, or an object that gives the name a null. -/
def choice? {α : Type} (key : α → String) (all : List α) : Json → Option α
  | .string s => (decode? s).bind fun name => all.find? (key · = String.ofList name)
  | .object [(s, .null)] => (decode? s).bind fun name => all.find? (key · = String.ofList name)
  | _ => none

end CallHistory.Json
