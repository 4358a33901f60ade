import CallHistory.Toml.Basic

/-! # Building TOML tables

Lines put values into tables, by a path of names below the table of the last header. A table that
was only implied by a longer path may be defined once; one made by dotted names may grow only by
dotted names, and a value closes its name for good.
-/

namespace CallHistory.Toml

inductive Entry where
  | value (v : Toml)
  /-- A table: whether a longer path implied it, whether that path was dotted names, its entries. -/
  | table (implied dotted : Bool) (entries : List (String × Entry))
  /-- Tables under one name; the last one is still open. -/
  | tables (elements : List (List (String × Entry)))

structure Draft where
  implied : Bool := false
  dotted : Bool := false
  entries : List (String × Entry) := []

namespace Draft

def find? (t : Draft) (name : String) : Option Entry :=
  List.lookup name t.entries

def erase (t : Draft) (name : String) : Draft :=
  { t with entries := t.entries.filter (·.1 ≠ name) }

def put (t : Draft) (name : String) (e : Entry) : Draft :=
  if (t.find? name).isSome then
    { t with entries := t.entries.map fun m => if m.1 = name then (name, e) else m }
  else { t with entries := t.entries ++ [(name, e)] }

def toEntry (t : Draft) : Entry := .table t.implied t.dotted t.entries

/-- Changes the table at the end of a path, making the tables on the way that are not there. -/
def alter (dotted : Bool) (f : Draft → Option Draft) : List String → Draft → Option Draft
  | [], t => f t
  | name :: path, t =>
    match t.find? name with
    | none => (alter dotted f path ⟨true, dotted, []⟩).map fun d => t.put name d.toEntry
    | some (.value _) => none
    | some (.table implied wasDotted entries) =>
      if dotted && !implied then none
      else (alter dotted f path ⟨implied, wasDotted, entries⟩).map fun d => t.put name d.toEntry
    | some (.tables elements) =>
      (alter dotted f path ⟨false, false, elements.getLastD []⟩).map fun d =>
        t.put name (.tables (elements.dropLast ++ [d.entries]))

def assign (names : List String) (v : Toml) (t : Draft) : Option Draft :=
  let path := names.dropLast
  let last := names.getLastD ""
  alter true (fun t =>
    if t.dotted = path.isEmpty || (t.find? last).isSome then none
    else some (t.put last (.value v))) path t

/-- Defines the table of a header; the table stands at the end then, even if it was implied
before. -/
def define (names : List String) (t : Draft) : Option Draft :=
  let last := names.getLastD ""
  alter false (fun t =>
    match t.find? last with
    | none => some (t.put last (.table false false []))
    | some (.table true false entries) => some ((t.erase last).put last (.table false false entries))
    | some _ => none) names.dropLast t

/-- Opens one more table under the name of a header. -/
def extend (names : List String) (t : Draft) : Option Draft :=
  let last := names.getLastD ""
  alter false (fun t =>
    match t.find? last with
    | none => some (t.put last (.tables [[]]))
    | some (.tables elements) => some (t.put last (.tables (elements ++ [[]])))
    | some _ => none) names.dropLast t

end Draft

mutual

def Entry.toToml : Entry → Toml
  | .value v => v
  | .table _ _ entries => .table (membersOf entries)
  | .tables elements => .array (tablesOf elements)

def membersOf : List (String × Entry) → List (String × Toml)
  | [] => []
  | (name, e) :: rest => (name, e.toToml) :: membersOf rest

def tablesOf : List (List (String × Entry)) → List Toml
  | [] => []
  | entries :: rest => .table (membersOf entries) :: tablesOf rest

end

def Draft.members (t : Draft) : List (String × Toml) :=
  membersOf t.entries

end CallHistory.Toml
