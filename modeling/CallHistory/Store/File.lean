import CallHistory.Store.Basic
import CallHistory.Store.Disk
import CallHistory.Store.Line

/-! # The file store

Every record becomes one line at the end of a file. Each record opens the file anew, so one that
finds the file shut does not keep later ones from being written.
-/

namespace CallHistory

/-- The state of a file store: where its file lies, and on which disk. -/
structure FileLog (δ : Type) where
  path : String
  disk : δ
  supply : Supply

namespace FileLog

variable {δ : Type}

/-- What is appended for a record: its line and the end of the line. -/
def segment (entry : EntryId) (r : Record) (now : Stamp) : List Char :=
  (Line.ofRecord entry r now).print ++ ['\n']

def add (d : Disk δ) (r : Record) (f : FileLog δ) : Step (FileLog δ) Reply :=
  let entry := f.supply.entry
  let supply := f.supply.next
  match d.append f.path (segment entry r f.supply.now) f.disk with
  | .error e => ⟨.refused (.io (f.path ++ ": " ++ e.message)), { f with supply }, {}⟩
  | .ok disk => ⟨.stored entry, { f with disk, supply }, .of [.entryAppended entry f.path]⟩

def store (d : Disk δ) : Store (FileLog δ) where
  add := add d

end FileLog
end CallHistory
