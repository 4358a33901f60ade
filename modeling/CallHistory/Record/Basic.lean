import CallHistory.Call.Basic

/-! # Call records

A record is one entry of the call history: the outcome of one finished call. `Record.ofCall` builds
it from what the history sees of a call, `CallKind.classify` says which kind of call it was.
-/

namespace CallHistory

inductive CallKind where
  | incoming
  | outgoing
  | missed
  deriving DecidableEq, Repr, Inhabited

namespace CallKind

def all : List CallKind := [incoming, outgoing, missed]

def code : CallKind → Int
  | incoming => 1
  | outgoing => 2
  | missed => 3

/-- The name of the kind in data and reports. -/
def key : CallKind → String
  | incoming => "incoming"
  | outgoing => "outgoing"
  | missed => "missed"

/-- The kind of a call that ended: an incoming call was missed if it rang until it ended. -/
def classify (incoming : Bool) (left : CallState) : CallKind :=
  if !incoming then .outgoing
  else if left = .ringing then .missed
  else .incoming

end CallKind

/-- How the number of the other side was presented. -/
inductive Presentation where
  | allowed
  | restricted
  | unknown
  | payphone
  deriving DecidableEq, Repr, Inhabited

namespace Presentation

def all : List Presentation := [allowed, restricted, unknown, payphone]

def code : Presentation → Int
  | allowed => 1
  | restricted => 2
  | unknown => 3
  | payphone => 4

def key : Presentation → String
  | allowed => "allowed"
  | restricted => "restricted"
  | unknown => "unknown"
  | payphone => "payphone"

/-- The name of the presentation in reports. -/
def title : Presentation → String
  | allowed => "Allowed"
  | restricted => "Restricted"
  | unknown => "Unknown"
  | payphone => "Payphone"

end Presentation

structure Contact where
  name : Option String
  label : Option String
  deriving DecidableEq, Repr

structure Record where
  contact : Option Contact
  number : Option String
  presentation : Presentation
  kind : CallKind
  /-- Start of the call, in milliseconds since the start of 1970. -/
  start : Int64
  /-- Length of the call in whole seconds. -/
  duration : Int64
  deriving DecidableEq

namespace Record

/-- Whole seconds of an age in milliseconds; a negative age counts as none. -/
def wholeSeconds (age : Int64) : Int64 :=
  .ofInt (max age.toInt 0 / 1000)

/-- A record of a call that started at `start` and was `age` milliseconds old. -/
def make (contact : Option Contact) (number : Option String) (presentation : Presentation)
    (kind : CallKind) (start age : Int64) : Record :=
  ⟨contact, number, presentation, kind, start, wholeSeconds age⟩

/-- The entry for a call. Calls carry no contact and no presentation of their own. -/
def ofCall (call : CallInfo) (kind : CallKind) : Record :=
  make none (call.handle.map Phone.Handle.logNumber) .allowed kind call.created call.age

end Record

/-- Whether calls to emergency numbers may enter the history. -/
structure Policy where
  allowEmergency : Bool
  deriving DecidableEq, Repr

namespace Policy

def permits (p : Policy) (emergency : Bool) : Bool :=
  !emergency || p.allowEmergency

end Policy
end CallHistory
