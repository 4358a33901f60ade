import CallHistory.Phone.Number

/-! # Emergency numbers

A list of numbers is held in dialable form, without empty entries. A dialed number is an emergency
number when its dialable form is on the list; an address never is.
-/

namespace CallHistory.Phone

/-- The numbers that reach local emergency services, in dialable form. -/
structure EmergencyNumbers where
  numbers : List String
  deriving Repr, DecidableEq

namespace EmergencyNumbers

/-- Entries in any spelling; those without a dialable character are left out. -/
def ofList (entries : List String) : EmergencyNumbers :=
  ⟨(entries.map stripSeparators).filter (· ≠ "")⟩

def standardList : List String := ["112", "911"]

def standard : EmergencyNumbers :=
  ofList standardList

/-- Whether dialing `number` reaches local emergency services. The whole number counts, so a longer
number that starts with an emergency number is none. -/
def recognizes (e : EmergencyNumbers) (number : String) : Bool :=
  !isUri number && e.numbers.contains (stripSeparators number)

end EmergencyNumbers
end CallHistory.Phone
