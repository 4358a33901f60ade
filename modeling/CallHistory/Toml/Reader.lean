import CallHistory.Toml.Document
import CallHistory.Toml.Scalar
import CallHistory.Toml.Text

/-! # Reading TOML

A document is read line by line into a draft of its table. Arrays and tables in lines may lie in one
another less than eighty deep, and a path has fewer than eighty names.
-/

namespace CallHistory.Toml

def isBlank (c : Char) : Bool := c = ' ' || c = '\t'

def skipBlanks (s : List Char) : List Char := s.dropWhile isBlank

/-- Bounds both the depth of values and the length of paths. -/
def limit : Nat := 80

/-- White space, line ends and comments, each of which ends its line. -/
def skipLines (comment : Bool) : List Char → Option (List Char)
  | [] => if comment then none else some []
  | '\n' :: rest => skipLines false rest
  | '\r' :: '\n' :: rest => skipLines false rest
  | c :: rest =>
    if comment then (if isPrintable c then skipLines true rest else none)
    else if isBlank c then skipLines false rest
    else if c = '#' then skipLines true rest
    else some (c :: rest)

/-! ## Names -/

def isBare (c : Char) : Bool := c.isAlphanum || c = '_' || c = '-'

def name? (s : List Char) : Option (String × List Char) :=
  match s with
  | '"' :: _ | '\'' :: _ => (quoted? s).map fun (name, rest) => (.ofList name, rest)
  | _ =>
    let name := s.takeWhile isBare
    if name.isEmpty then none else some (.ofList name, s.dropWhile isBare)

def names? : Nat → List Char → Option (List String × List Char)
  | 0, _ => none
  | fuel + 1, s => do
    let (name, rest) ← name? (skipBlanks s)
    match skipBlanks rest with
    | '.' :: rest =>
      let (others, rest) ← names? fuel rest
      return (name :: others, rest)
    | rest => return ([name], rest)

def path? (s : List Char) : Option (List String × List Char) :=
  names? (limit - 1) s

/-! ## Values -/

/-- The values of an array after its bracket, at most `fuel` of them, and what follows its end. -/
def items? (read : List Char → Option (Toml × List Char)) :
    Nat → List Char → Option (List Toml × List Char)
  | 0, _ => none
  | fuel + 1, s => do
    match ← skipLines false s with
    | ']' :: rest => return ([], rest)
    | s =>
      let (v, rest) ← read s
      match ← skipLines false rest with
      | ',' :: rest =>
        let (others, rest) ← items? read fuel rest
        return (v :: others, rest)
      | ']' :: rest => return ([v], rest)
      | _ => none

def pair (read : List Char → Option (Toml × List Char)) (s : List Char) :
    Option ((List String × Toml) × List Char) := do
  let (names, rest) ← path? s
  match rest with
  | '=' :: rest =>
    let (v, rest) ← read (skipBlanks rest)
    return ((names, v), rest)
  | _ => none

/-- The rest of a table in a line, at most `fuel` pairs, and what follows its end. -/
def pairs? (read : List Char → Option (Toml × List Char)) :
    Nat → Draft → List Char → Option (Draft × List Char)
  | 0, _, _ => none
  | fuel + 1, t, s => do
    let ((names, v), rest) ← pair read s
    let t ← t.assign names v
    match skipBlanks rest with
    | ',' :: rest => pairs? read fuel t rest
    | '\x7d' :: rest => return (t, rest)
    | _ => none

/-- A value with at most `depth` arrays and tables around its innermost values, and what follows
it. -/
def value? : Nat → List Char → Option (Toml × List Char)
  | depth, s =>
    match s with
    | '"' :: _ | '\'' :: _ => (string? s).map fun (text, rest) => (.string (.ofList text), rest)
    | '[' :: rest =>
      match depth with
      | 0 => none
      | depth + 1 =>
        (items? (value? depth) (rest.length + 1) rest).map fun (vs, rest) => (.array vs, rest)
    | '\x7b' :: rest =>
      match depth with
      | 0 => none
      | depth + 1 =>
        match skipBlanks rest with
        | '\x7d' :: rest => some (.table [], rest)
        | rest =>
          (pairs? (value? depth) (rest.length + 1) {} rest).map fun (t, rest) =>
            (.table t.members, rest)
    | s => scalar? s

/-! ## Lines -/

/-- What is left after the end of a line: white space, a comment, and the line end or the end of
the text. -/
def lineEnd? (s : List Char) : Option (List Char) :=
  let rest := match skipBlanks s with
    | '#' :: rest => rest.dropWhile isPrintable
    | rest => rest
  match rest with
  | [] => some []
  | '\n' :: rest => some rest
  | '\r' :: '\n' :: rest => some rest
  | _ => none

/-- A document so far: its table, and the path of the last header. -/
structure Reading where
  draft : Draft := {}
  header : List String := []

def line? (r : Reading) (s : List Char) : Option (Reading × List Char) :=
  match skipBlanks s with
  | '[' :: '[' :: rest => do
    let (names, rest) ← path? rest
    match rest with
    | ']' :: ']' :: rest => return (⟨← r.draft.extend names, names⟩, ← lineEnd? rest)
    | _ => none
  | '[' :: rest => do
    let (names, rest) ← path? rest
    match rest with
    | ']' :: rest => return (⟨← r.draft.define names, names⟩, ← lineEnd? rest)
    | _ => none
  | s =>
    match lineEnd? s with
    | some rest => some (r, rest)
    | none => do
      let ((names, v), rest) ← pair (value? (limit - 1)) s
      return (⟨← Draft.alter false (Draft.assign names v) r.header r.draft, r.header⟩,
        ← lineEnd? rest)

def lines? : Nat → Reading → List Char → Option Reading
  | _, r, [] => some r
  | 0, _, _ => none
  | fuel + 1, r, s => (line? r s).bind fun (r, rest) => lines? fuel r rest

/-- The members of the table that a document spells. A byte order mark before it is passed over. -/
def parse? (s : List Char) : Option (List (String × Toml)) :=
  let s := match s with
    | '\ufeff' :: rest => rest
    | s => s
  (lines? s.length {} s).map fun r => r.draft.members

end CallHistory.Toml
