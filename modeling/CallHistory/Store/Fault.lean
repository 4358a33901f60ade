import CallHistory.Store.Basic

/-! # Faults

A table of faults says for which numbers a store fails. The table is asked before the store is, so
a record with a fault never reaches the store. Records without a number have no fault.
-/

namespace CallHistory

inductive Fault where
  | refuse (cause : StoreError)
  | crash
  deriving DecidableEq, Repr

namespace Fault

def reply : Fault → Reply
  | refuse cause => .refused cause
  | crash => .crashed

end Fault

/-- The fault of each number that has one. -/
abbrev Faults := List (String × Fault)

namespace Faults

def find? (faults : Faults) (r : Record) : Option Fault :=
  r.number.bind fun number => List.lookup number faults

end Faults

/-- The store behind a table of faults. -/
def Store.behind {σ : Type} (faults : Faults) (store : Store σ) : Store σ where
  add r s :=
    match faults.find? r with
    | some fault => ⟨fault.reply, s, {}⟩
    | none => store.add r s
  lock := store.lock

end CallHistory
