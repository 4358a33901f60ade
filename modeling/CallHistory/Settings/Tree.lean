import CallHistory.Settings.Moment
import CallHistory.Text.Search

/-! # Trees of settings

Layers of settings are put on top of one another in a tree. A value is put under a name in lower
case. A table is joined name by name with the table it meets, and any other value takes the place of
what was there.
-/

namespace CallHistory.Settings

inductive Tree where
  | absent
  | text (s : String)
  | integer (n : Int64)
  | real (x : Toml.Real)
  | flag (b : Bool)
  | list (items : List Tree)
  | table (members : List (String × Tree))

namespace Tree

instance : Inhabited Tree := ⟨absent⟩

def lowerName (name : String) : String := .ofList (name.toList.map Text.lower)

mutual

/-- The tree of a value; a point in time is a text. A table that ought to be a point in time and
does not spell one has no tree. -/
def ofToml? : Toml → Option Tree
  | .string s => some (text s)
  | .integer n => some (integer n)
  | .real x => some (real x)
  | .boolean b => some (flag b)
  | .moment s => some (text s)
  | .array items => (ofItems? items).map list
  | .table members =>
    if Moment.isMoment members then
      (members.head?.bind fun m => Moment.ofToml? m.2).map text
    else (ofMembers? members).map table

def ofItems? : List Toml → Option (List Tree)
  | [] => some []
  | v :: rest => do return (← ofToml? v) :: (← ofItems? rest)

def ofMembers? : List (String × Toml) → Option (List (String × Tree))
  | [] => some []
  | (name, v) :: rest => do return (name, ← ofToml? v) :: (← ofMembers? rest)

end

/-- The members of the table that a whole document is; a document that is a point in time has
none. -/
def ofDocument? (members : List (String × Toml)) : Option (List (String × Tree)) :=
  if Moment.isMoment members then none else ofMembers? members

def members : Tree → List (String × Tree)
  | table members => members
  | _ => []

def items : Tree → List Tree
  | list items => items
  | _ => []

def at? (t : Tree) (name : String) : Option Tree :=
  t.members.lookup name

/-- Changes what stands under a name; a tree that is no table becomes one. -/
def change (name : String) (f : Tree → Tree) (t : Tree) : Tree :=
  match t.at? name with
  | none => table (t.members ++ [(name, f absent)])
  | some _ => table (t.members.map fun m => if m.1 = name then (name, f m.2) else m)

def orTable : Tree → Tree
  | absent => table []
  | t => t

mutual

/-- Puts a value under a name in lower case, on top of what stands there. -/
def put (name : String) (v : Tree) (t : Tree) : Tree :=
  match v with
  | table members => t.change (lowerName name) fun old => putAll members old.orTable
  | v => t.change (lowerName name) fun _ => v

def putAll : List (String × Tree) → Tree → Tree
  | [], t => t
  | (name, v) :: rest, t => putAll rest (put name v t)

end

/-! ## Paths -/

inductive Step where
  | name (s : String)
  | place (n : Int)
  deriving DecidableEq, Repr

def mostItems : Nat := UInt32.size

/-- Where a place is in a list, counted from the end of the list if the place is negative. In front
of a list there is no place. -/
def index? (place : Int) (length : Nat) : Option Nat :=
  let n := if place < 0 then place + length else place
  if 0 ≤ n ∧ n < mostItems then some n.toNat else none

/-- Puts a value at the end of a path, if there is such a place. A tree that is no list becomes one
on the way, and a list that is too short grows. Tables are joined only under names, and the names
before the last one are looked for as they are written. -/
def putAt? (v : Tree) : List Step → Tree → Option Tree
  | [], _ => some v
  | [.name s], t => some (put s v t)
  | .name s :: path, t =>
    (putAt? v path ((t.at? s).getD absent)).map fun v => t.change s fun _ => v
  | .place n :: path, t => do
    let items := t.items
    let i ← index? n items.length
    let v ← putAt? v path (items.getD i absent)
    return list ((items ++ List.replicate (i + 1 - items.length) absent).set i v)

end Tree
end CallHistory.Settings
