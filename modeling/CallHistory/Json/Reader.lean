import CallHistory.Json.Token

/-! # Reading JSON

Tokens are read one by one against the arrays and objects that are still open. There is no bound
on how deep they may lie.
-/

namespace CallHistory.Json

/-- An array or object that is still open, with what has been read of it, the last part first. An
open object waits for the value of a name. -/
inductive Frame where
  | array (items : List Json)
  | object (members : List (List Piece × Json)) (name : List Piece)

/-- What may come next. The frames are those still open, the innermost first. -/
inductive Reading where
  | value (frames : List Frame)
  /-- Just inside an array: a value or its end. -/
  | item (frames : List Frame)
  /-- Just inside an object: a name or its end. -/
  | member (frames : List Frame)
  /-- After a comma in an object with these members. -/
  | nextMember (members : List (List Piece × Json)) (frames : List Frame)
  | colon (members : List (List Piece × Json)) (name : List Piece) (frames : List Frame)
  /-- After a value. -/
  | read (v : Json) (frames : List Frame)

namespace Reading

def start? (frames : List Frame) : Token → Option Reading
  | .null => some (.read .null frames)
  | .bool b => some (.read (.bool b) frames)
  | .number n => some (.read (.number n) frames)
  | .string s => some (.read (.string s) frames)
  | .bracketOpen => some (.item frames)
  | .braceOpen => some (.member frames)
  | _ => none

def continue? (v : Json) : List Frame → Token → Option Reading
  | .array items :: frames, .comma => some (.value (.array (v :: items) :: frames))
  | .array items :: frames, .bracketClose => some (.read (.array (v :: items).reverse) frames)
  | .object members name :: frames, .comma => some (.nextMember ((name, v) :: members) frames)
  | .object members name :: frames, .braceClose =>
    some (.read (.object ((name, v) :: members).reverse) frames)
  | _, _ => none

def step : Reading → Token → Option Reading
  | .value frames, t => start? frames t
  | .item frames, .bracketClose => some (.read (.array []) frames)
  | .item frames, t => start? (.array [] :: frames) t
  | .member frames, .braceClose => some (.read (.object []) frames)
  | .member frames, .string s => some (.colon [] s frames)
  | .nextMember members frames, .string s => some (.colon members s frames)
  | .colon members name frames, .colon => some (.value (.object members name :: frames))
  | .read v frames, t => continue? v frames t
  | _, _ => none

/-- The value, if it is complete and nothing is open. -/
def finish? : Reading → Option Json
  | .read v [] => some v
  | _ => none

end Reading

def ofTokens? (tokens : List Token) : Option Json :=
  (tokens.foldlM Reading.step (.value [])).bind Reading.finish?

def parse? (text : List Char) : Option Json :=
  (scan? text).bind ofTokens?

end CallHistory.Json
