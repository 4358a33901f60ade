/-! # Store errors

Why a store did not keep a record.
-/

namespace CallHistory

inductive StoreError where
  | unavailable (text : String)
  | locked
  | rejected (text : String)
  | io (text : String)
  | serialization (text : String)
  | database (text : String)
  deriving DecidableEq, Repr

namespace StoreError

def message : StoreError → String
  | .unavailable text => "Store unavailable: " ++ text
  | .locked => "Store is locked"
  | .rejected text => "Record rejected: " ++ text
  | .io text => "I/O error: " ++ text
  | .serialization text => "Serialization error: " ++ text
  | .database text => "Database error: " ++ text

end StoreError
end CallHistory
