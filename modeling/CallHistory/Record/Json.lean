import CallHistory.Json.Fields
import CallHistory.Json.Printer
import CallHistory.Json.Reader
import CallHistory.Record.Basic

/-! # Records, handles and entry names as JSON

Each is written with its fields in a fixed order. Reading takes what `Json.fields?` takes; texts and
contacts that are absent are read as none.
-/

namespace CallHistory

namespace Contact

def toJson (c : Contact) : Json :=
  .ofMembers [("name", .ofString? c.name), ("number_label", .ofString? c.label)]

def ofJson? (v : Json) : Option Contact :=
  match v.fields? ["name", "number_label"] with
  | some [name, label] => do
    return ⟨← Json.optional? Json.toString? name, ← Json.optional? Json.toString? label⟩
  | _ => none

end Contact

namespace Record

def fieldNames : List String :=
  ["contact_info", "number", "presentation", "call_type", "timestamp_millis", "duration_secs"]

def toJson (r : Record) : Json :=
  .ofMembers [
    ("contact_info", r.contact.elim .null Contact.toJson),
    ("number", .ofString? r.number),
    ("presentation", .ofString r.presentation.key),
    ("call_type", .ofString r.kind.key),
    ("timestamp_millis", .ofInt r.start.toInt),
    ("duration_secs", .ofInt r.duration.toInt)]

def ofJson? (v : Json) : Option Record :=
  match v.fields? fieldNames with
  | some [contact, number, presentation, kind, start, duration] => do
    return ⟨← Json.optional? Contact.ofJson? contact,
      ← Json.optional? Json.toString? number,
      ← Json.required? (Json.choice? Presentation.key Presentation.all) presentation,
      ← Json.required? (Json.choice? CallKind.key CallKind.all) kind,
      ← Json.required? Json.toInt64? start,
      ← Json.required? Json.toInt64? duration⟩
  | _ => none

def print (r : Record) : List Char :=
  r.toJson.print

/-- Reads a record from its written form or any other spelling of it. -/
def parse? (s : List Char) : Option Record :=
  (Json.parse? s).bind ofJson?

end Record

namespace Phone.Handle

def toJson (h : Handle) : Json :=
  .ofMembers [("scheme", .ofString h.scheme), ("scheme_specific_part", .ofString h.part)]

/-- Reads a handle. Any two texts will do. -/
def ofJson? (v : Json) : Option Handle :=
  match v.fields? ["scheme", "scheme_specific_part"] with
  | some [scheme, part] => do
    return ⟨← Json.required? Json.toString? scheme, ← Json.required? Json.toString? part⟩
  | _ => none

end Phone.Handle

namespace EntryId

def toJson (e : EntryId) : Json :=
  .string (Json.Piece.ofText e.uuid.text)

def ofJson? (v : Json) : Option EntryId :=
  v.toString?.bind fun s => (Uuid.parse? s.toList).map EntryId.mk

end EntryId
end CallHistory
