import CallHistory.Text.Search
import CallHistory.Phone.Number

/-! # Handles

A handle is the address of a call, a scheme and a part, written `scheme:part`. Reading puts the
scheme into lower case and keeps all else, further colons included.
-/

namespace CallHistory.Phone

structure Handle where
  scheme : String
  part : String
  deriving Repr, DecidableEq

inductive HandleFault where
  | missingScheme (text : String)
  | badScheme (scheme : String)
  | emptyAddress (text : String)
  deriving Repr, DecidableEq

namespace HandleFault

def message : HandleFault → String
  | .missingScheme text => "Invalid handle: missing scheme in '" ++ text ++ "'"
  | .badScheme scheme => "Invalid handle: bad scheme '" ++ scheme ++ "'"
  | .emptyAddress text => "Invalid handle: empty address in '" ++ text ++ "'"

end HandleFault

namespace Handle

def tel (number : String) : Handle := ⟨"tel", number⟩

def sip (address : String) : Handle := ⟨"sip", address⟩

def isSchemeChar (c : Char) : Bool :=
  c.isAlphanum || c = '+' || c = '-' || c = '.'

/-- Reads `scheme:part`, split at the first colon. -/
def parse (text : String) : Except HandleFault Handle :=
  match Text.cut? [':'] text.toList with
  | none => .error (.missingScheme text)
  | some (scheme, part) =>
    if scheme.isEmpty || !scheme.all isSchemeChar then .error (.badScheme (.ofList scheme))
    else if part.isEmpty then .error (.emptyAddress text)
    else .ok ⟨.ofList (scheme.map Char.toLower), .ofList part⟩

def text (h : Handle) : String :=
  h.scheme ++ ":" ++ h.part

/-- The number under which a call with this handle enters the history. -/
def logNumber (h : Handle) : String :=
  normalize h.part

end Handle
end CallHistory.Phone
