import CallHistory.Text.Search

/-! # Paths of files

A path is a list of names joined by slashes. It is spelled in more than one way: further slashes and
names that are one point stay where they are, except for a point at the start.
-/

namespace CallHistory.Text.Path

def names (path : List Char) : List (List Char) :=
  match split '/' path with
  | [] => []
  | first :: rest => (first :: rest.filter (· ≠ ['.'])).filter (· ≠ [])

/-- Whether two paths start at the same place and go through the same names. -/
def same (p q : List Char) : Bool :=
  (p.head? == some '/') == (q.head? == some '/') && names p = names q

end CallHistory.Text.Path
