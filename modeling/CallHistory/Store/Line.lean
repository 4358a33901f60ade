import CallHistory.Record.Json
import CallHistory.Time.Stamp

/-! # Lines of the history file

A line is one entry as a JSON object on a line of its own. It carries the numeric codes of kind and
presentation and the time at which it was written; the contact of a record is left out.
-/

namespace CallHistory

structure Line where
  id : Uuid
  number : Option String
  presentation : Int32
  kind : Int32
  date : Int64
  duration : Int64
  written : Stamp
  deriving DecidableEq

namespace Line

def ofRecord (entry : EntryId) (r : Record) (now : Stamp) : Line :=
  ⟨entry.uuid, r.number, .ofInt r.presentation.code, .ofInt r.kind.code, r.start, r.duration, now⟩

def fieldNames : List String :=
  ["id", "number", "presentation", "type", "date", "duration", "written_at"]

def toJson (l : Line) : Json :=
  .ofMembers [
    ("id", .string (Json.Piece.ofText l.id.text)),
    ("number", .ofString? l.number),
    ("presentation", .ofInt l.presentation.toInt),
    ("type", .ofInt l.kind.toInt),
    ("date", .ofInt l.date.toInt),
    ("duration", .ofInt l.duration.toInt),
    ("written_at", .string (Json.Piece.ofText l.written.print))]

def uuidOfJson? (v : Json) : Option Uuid :=
  v.toString?.bind fun s => Uuid.parse? s.toList

def stampOfJson? (v : Json) : Option Stamp :=
  v.toString?.bind fun s => Stamp.parse? s.toList

def ofJson? (v : Json) : Option Line :=
  match v.fields? fieldNames with
  | some [id, number, presentation, kind, date, duration, written] => do
    return ⟨← Json.required? uuidOfJson? id,
      ← Json.optional? Json.toString? number,
      ← Json.required? Json.toInt32? presentation,
      ← Json.required? Json.toInt32? kind,
      ← Json.required? Json.toInt64? date,
      ← Json.required? Json.toInt64? duration,
      ← Json.required? stampOfJson? written⟩
  | _ => none

/-- The written form of a line, without the end of the line. -/
def print (l : Line) : List Char :=
  l.toJson.print

/-- Reads a line from its written form or any other spelling of it. -/
def parse? (s : List Char) : Option Line :=
  (Json.parse? s).bind ofJson?

end Line
end CallHistory
