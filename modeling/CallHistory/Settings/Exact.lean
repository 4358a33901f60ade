import CallHistory.Settings.Section
import CallHistory.Toml.Reader

/-! # Settings from a document

Each value of the document has to be of the type of its setting. A point in time counts as a
section without any setting.
-/

namespace CallHistory.Settings.Exact

/-- A store kind is named by a string, or by the one name of a table whose value is empty. -/
def kind? : Toml → Option StoreKind
  | .string s => StoreKind.ofKey? s
  | .table [(s, .table [])] | .table [(s, .array [])] => StoreKind.ofKey? s
  | _ => none

def reader : Reader Toml where
  part
    | .table members => some (.named members)
    | .array items => some (.listed items)
    | .moment _ => some (.named [])
    | _ => none
  flag
    | .boolean b => some b
    | _ => none
  count most
    | .integer n => if 0 ≤ n.toInt ∧ n.toInt ≤ most then some n.toInt.toNat else none
    | _ => none
  text
    | .string s => some s
    | _ => none
  items
    | .array items => some items
    | _ => none
  kind := kind?
  optional := some

def read (document : List Char) : Except LoadError Settings :=
  check ((Toml.parse? document).bind reader.settings?)

end CallHistory.Settings.Exact
