import CallHistory.Text.Search

/-! # Disks

A disk can append a text to the end of a named file, which it creates if it is not there. `Folders`
is a disk of nested folders, named by paths with slashes, and `Drive` one that has a single file.
-/

namespace CallHistory

inductive DiskError where
  | notFound
  | notFolder
  | isFolder
  | nameTooLong
  | badName
  deriving DecidableEq, Repr

namespace DiskError

def message : DiskError → String
  | notFound => "No such file or directory (os error 2)"
  | notFolder => "Not a directory (os error 20)"
  | isFolder => "Is a directory (os error 21)"
  | nameTooLong => "File name too long (os error 36)"
  | badName => "file name contained an unexpected NUL byte"

end DiskError

structure Disk (δ : Type) where
  append : (path : String) → (text : List Char) → δ → Except DiskError δ

inductive Node where
  | folder
  | file (text : List Char)
  deriving DecidableEq, Repr

/-- Nested folders; each node has the names on the way to it. The outermost folder is always
there. -/
structure Folders where
  nodes : List (List String × Node) := []
  deriving DecidableEq, Repr

namespace Folders

def find? (t : Folders) (place : List String) : Option Node :=
  if place.isEmpty then some .folder else List.lookup place t.nodes

def put (t : Folders) (place : List String) (n : Node) : Folders :=
  ⟨(place, n) :: t.nodes.filter (·.1 ≠ place)⟩

def longestName : Nat := 255

def longestPath : Nat := 4095

/-- Follows names from a folder to another. -/
def walk (t : Folders) : List String → List String → Except DiskError (List String)
  | [], here => .ok here
  | name :: rest, here =>
    if name = "" ∨ name = "." then walk t rest here
    else if name = ".." then walk t rest here.dropLast
    else if longestName < name.utf8ByteSize then .error .nameTooLong
    else
      match t.find? (here ++ [name]) with
      | some .folder => walk t rest (here ++ [name])
      | some (.file _) => .error .notFolder
      | none => .error .notFound

def names (path : String) : List String :=
  (Text.split '/' path.toList).map String.ofList

/-- The names of a path before the last one, the last one, and whether slashes follow it. -/
def target (path : String) : List String × String × Bool :=
  let parts := (names path).reverse
  let named := parts.dropWhile (· = "")
  (named.tail.reverse, named.headD "", parts.head? = some "")

/-- The place of the file that a path names, and what the file holds. No path to a file ends in a
slash. -/
def locate (t : Folders) (path : String) : Except DiskError (List String × List Char) :=
  if path.toList.contains '\x00' then .error .badName
  else if path = "" then .error .notFound
  else if longestPath < path.utf8ByteSize then .error .nameTooLong
  else
    let (way, name, closed) := target path
    (t.walk way []).bind fun folder =>
      if name = "" ∨ name = "." ∨ name = ".." ∨ closed then .error .isFolder
      else if longestName < name.utf8ByteSize then .error .nameTooLong
      else
        match t.find? (folder ++ [name]) with
        | some .folder => .error .isFolder
        | some (.file text) => .ok (folder ++ [name], text)
        | none => .ok (folder ++ [name], [])

def append (path : String) (text : List Char) (t : Folders) : Except DiskError Folders :=
  (t.locate path).map fun (place, old) => t.put place (.file (old ++ text))

def read? (t : Folders) (path : String) : Option (List Char) :=
  match t.locate path with
  | .error _ => none
  | .ok (place, _) =>
    match t.find? place with
    | some (.file text) => some text
    | _ => none

/-- Makes a folder and all those on the way to it. -/
def makeFolder (t : Folders) (place : List String) : Folders :=
  (List.range place.length).foldl (fun t n =>
    let here := place.take (n + 1)
    if (t.find? here).isSome then t else t.put here .folder) t

def disk : Disk Folders := ⟨append⟩

end Folders

/-- A single file: what keeps it shut, if anything does, and the text that it was given. -/
structure Drive where
  fault : Option DiskError := none
  text : List Char := []

def Drive.disk : Disk Drive where
  append _ text d :=
    match d.fault with
    | some e => .error e
    | none => .ok { d with text := d.text ++ text }

end CallHistory
