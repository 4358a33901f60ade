import CallHistory.Report.Event
import CallHistory.Report.Pattern
import CallHistory.Text.Blank
import CallHistory.Text.Bytes
import CallHistory.Text.Decimal

/-! # Directives

A directive is written as `target[span{field=value}]=level`, where any part may be missing. It
sets the least level of the events whose source starts with its target and that have its field. One
about a span or about the value of a field selects nothing, as events are not in spans.
-/

namespace CallHistory.Report

/-- What a field has to be like: it has to be there, and may have to match a pattern. -/
structure Condition where
  field : List Char
  value : Option (List Char) := none
  deriving DecidableEq, Repr

/-- From which level on some events are shown; without a level none is. -/
structure Directive where
  target : Option (List Char) := none
  span : Option (List Char) := none
  condition : Option Condition := none
  level : Option Level := some .trace
  deriving DecidableEq, Repr

/-- Why a text is not read as a directive. Reading crashes on a part that begins or ends within a
character. -/
inductive DirectiveError where
  | malformed
  | crashed
  deriving DecidableEq, Repr

/-! ## Levels -/

/-- The level of a number; the inner option is missing where nothing is shown. -/
def levelOfNumber? : Nat → Option (Option Level)
  | 0 => some none
  | 1 => some (some .error)
  | 2 => some (some .warn)
  | 3 => some (some .info)
  | 4 => some (some .debug)
  | 5 => some (some .trace)
  | _ => none

def levelOfWord? (s : List Char) : Option (Option Level) :=
  let word := s.map Char.toUpper
  if word = "OFF".toList then some none
  else (Level.all.find? fun l => word = l.name.toList).map some

def levelOf? (s : List Char) : Option (Option Level) :=
  let digits := match s with
    | '+' :: digits => digits
    | digits => digits
  match Text.Decimal.toNat? digits with
  | some n => levelOfNumber? n
  | none => levelOfWord? s

/-! ## Reading -/

/-- Reads a condition, `name` or `name=value`; what follows a second equals sign is passed over. -/
def Condition.parse? (s : List Char) : Option Condition :=
  match Text.split '=' s with
  | field :: value :: _ => if isPattern value then some ⟨field, some value⟩ else none
  | _ => if s.isEmpty then none else some ⟨s, none⟩

namespace Directive

def orCrash {α : Type} : Option α → Except DirectiveError α
  | none => .error .crashed
  | some a => .ok a

def orMalformed {α : Type} : Option α → Except DirectiveError α
  | none => .error .malformed
  | some a => .ok a

def part (s : List Char) (start stop : Nat) : Except DirectiveError (List Char) :=
  orCrash (Text.between? start stop s)

/-- The level that the text spells from a place on; nothing stands for the lowest level. -/
def levelFrom (s : List Char) (start : Nat) : Except DirectiveError (Option Level) := do
  match ← orCrash (Text.splitAt? start s) with
  | (_, []) => return some .trace
  | (_, word) => orMalformed (levelOf? word)

def closing (s : List Char) (d : Directive) (start : Nat) :
    List Char → Except DirectiveError Directive
  | [] => .ok d
  | '=' :: _ => do return { d with level := ← levelFrom s (start + 1) }
  | _ => .error .malformed

def fieldPart (s : List Char) (d : Directive) (start : Nat) (rest : List Char) :
    Except DirectiveError Directive := do
  let (size, _, rest) ← orMalformed (Text.mark? ['\x7d'] rest)
  let condition ← orMalformed (Condition.parse? (← part s start (start + size)))
  match rest with
  | ']' :: rest => closing s { d with condition := some condition } (start + size + 2) rest
  | _ => .error .malformed

def spanPart (s : List Char) (d : Directive) (start : Nat) (rest : List Char) :
    Except DirectiveError Directive := do
  let (size, mark, rest) ← orMalformed (Text.mark? [']', '\x7b'] rest)
  let span ← part s start (start + size)
  if mark = ']' then closing s { d with span := some span } (start + size + 1) rest
  else
    let d := if span.isEmpty then d else { d with span := some span }
    fieldPart s d (start + size + 1) rest

def startsTarget (c : Char) : Bool :=
  c = '-' || c = ':' || c = '_' || Text.isLetterOrDigit c

/-- Reads a directive. The places of its marks are those in the text without the white space at its
ends, but its parts are cut from the text as it stands. -/
def parse (s : List Char) : Except DirectiveError Directive :=
  match Text.trim s with
  | [] => .error .malformed
  | '[' :: rest => spanPart s {} 1 rest
  | c :: rest =>
    if !startsTarget c then .error .malformed
    else
      match Text.mark? ['=', '['] (c :: rest) with
      | none =>
        match levelOf? s with
        | some level => .ok { level }
        | none => .ok { target := some s }
      | some (size, mark, rest) => do
        let d : Directive := { target := some (← part s 0 size) }
        if mark = '[' then spanPart s d (size + 1) rest
        else return { d with level := ← levelFrom s (size + 1) }

/-! ## Selecting -/

def selects (d : Directive) (e : Event) : Bool :=
  d.span.isNone
    && d.condition.all (fun c => c.value.isNone && e.hasField c.field)
    && d.target.all (·.isPrefixOf e.source.toList)

/-- How many characters of a source a directive fixes, one more if it has a target at all. -/
def reach (d : Directive) : Nat := (d.target.map fun t => t.length + 1).getD 0

def asks (d : Directive) : List Char := (d.condition.map (·.field)).getD []

/-- Whether a directive yields to another: that one has the longer target, or the same reach and a
field that comes later in the alphabet. -/
def yieldsTo (d e : Directive) : Bool :=
  d.reach < e.reach || (d.reach = e.reach && d.asks < e.asks)

end Directive
end CallHistory.Report
