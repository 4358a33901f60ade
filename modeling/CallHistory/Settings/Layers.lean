import CallHistory.Settings.Path
import CallHistory.Settings.Section
import CallHistory.Text.Search
import CallHistory.Toml.Reader

/-! # Layers of settings

The variables of the environment lie on top of the file of settings. A variable such as
`CALLLOG__WRITER__WORKERS`, in letters of any case, names a section and a setting. As all variables
are texts, values are converted to the types of their settings.
-/

namespace CallHistory.Settings.Layers

/-! ## Converted values -/

def isYes (s : List Char) : Bool := ["true", "on", "yes"].any (·.toList = s)

def isNo (s : List Char) : Bool := ["false", "off", "no"].any (·.toList = s)

/-- A truth value is a truth value, a number that may be zero, or a word. -/
def flag? : Tree → Option Bool
  | .flag b => some b
  | .integer n => some (n ≠ 0)
  | .real x => some (!x.isZero)
  | .text s =>
    let s := s.toList.map Text.lower
    if isYes s || s = ['1'] then some true
    else if isNo s || s = ['0'] then some false
    else none
  | _ => none

/-- The digits of a count may follow a plus sign. -/
def digits? (s : List Char) : Option Nat :=
  match s with
  | '+' :: digits => Text.Decimal.toNat? digits
  | digits => Text.Decimal.toNat? digits

def largest : Nat := UInt64.size - 1

/-- A count is a number, rounded and no larger than the largest one, a truth value, or the text of
either. -/
def count? : Tree → Option Nat
  | .flag b => some b.toNat
  | .integer n => if 0 ≤ n.toInt then some n.toInt.toNat else none
  | .real x => some (x.roundWithin largest)
  | .text s =>
    let s := s.toList.map Text.lower
    if isYes s then some 1 else if isNo s then some 0 else digits? s
  | _ => none

/-- A text is a text, or that of a number or a truth value. -/
def text? : Tree → Option String
  | .text s => some s
  | .flag b => some (if b then "true" else "false")
  | .integer n => some (.ofList (Text.Decimal.ofInt n.toInt))
  | .real x => some (.ofList x.print)
  | _ => none

/-- A store kind is named by a text, or by the one name of a table, in letters of any case. -/
def kind? : Tree → Option StoreKind
  | .text s | .table [(s, _)] => StoreKind.ofKey? (Tree.lowerName s)
  | _ => none

def reader : Reader Tree where
  part
    | .table members => some (.named members)
    | .list items => some (.listed items)
    | _ => none
  flag := flag?
  count most v := (count? v).bind fun n => if n ≤ most then some n else none
  text := text?
  items
    | .list items => some items
    | _ => none
  kind := kind?
  optional
    | .absent => none
    | v => some v

/-! ## The layers -/

def lay? (t : Tree) (entry : String × Tree) : Option Tree :=
  Tree.putAt? entry.2 (Path.ofKey entry.1) t

def start : List Char := "calllog__".toList

def key? (name : String) : Option String :=
  let name := name.toList.map Text.lower
  if start.isPrefixOf name then
    some (.ofList (Text.replaceAll ['_', '_'] ['.'] (name.drop start.length)))
  else none

def ofEnvironment (environment : List (String × String)) : List (String × Tree) :=
  environment.filterMap fun v => (key? v.1).map fun key => (key, .text v.2)

def ofFile? (file : List Char) : Option (List (String × Tree)) :=
  (Toml.parse? file).bind Tree.ofDocument?

end Layers

inductive File where
  | unset
  | missing
  | holding (text : List Char)
  deriving DecidableEq, Repr

def layered (file : File) (environment : List (String × String)) :
    Except LoadError (List (String × Tree)) :=
  let bottom := match file with
    | .unset => some []
    | .missing => none
    | .holding text => Layers.ofFile? text
  match bottom with
  | none => .error .unreadable
  | some layer =>
    match (layer ++ Layers.ofEnvironment environment).foldlM Layers.lay? (.table []) with
    | none => .error .crashed
    | some t => .ok t.members

def load (file : File) (environment : List (String × String)) : Except LoadError Settings :=
  match layered file environment with
  | .error e => .error e
  | .ok members => check (Layers.reader.settings? members)

end CallHistory.Settings
