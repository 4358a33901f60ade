import CallHistory.Report.Pattern.Mode
import CallHistory.Text.Letter

/-! # Groups of an expression

A parenthesis opens a group, which may have a name or flags of its own, or it gives flags to what
comes after it.
-/

namespace CallHistory.Report.Pattern

/-- Whether flags are known, and each is given once. A hyphen stands once at most and not at the
end. -/
def areFlags (s : List Char) : Bool :=
  s.all (fun c => "-imsUuxR".toList.contains c) && decide s.Nodup && s.getLast? ≠ some '-'

def isGroupName : List Char → Bool
  | [] => false
  | c :: s =>
    (c = '_' || Text.isLetter c)
      && s.all fun c => "_.[]".toList.contains c || Text.isLetterOrDigit c

/-- What an opening parenthesis begins: a group, with its name if it has one, a group with flags, or
flags alone. -/
inductive Opening where
  | group (name : Option (List Char))
  | flagged (flags : List Char)
  | flags (flags : List Char)
  deriving DecidableEq, Repr

namespace Opening

def named? (s : List Char) : Option (Opening × List Char) :=
  let name := s.takeWhile (· ≠ '>')
  match s.dropWhile (· ≠ '>') with
  | [] => none
  | _ :: rest => if isGroupName name then some (group (some name), rest) else none

def parse? (m : Mode) (s : List Char) : Option (Opening × List Char) :=
  match m.next s with
  | '?' :: '<' :: '!' :: _ | '?' :: '<' :: '=' :: _ => none
  | '?' :: 'P' :: '<' :: s | '?' :: '<' :: s => named? s
  | '?' :: s =>
    let letters := s.takeWhile fun c => c ≠ ':' && c ≠ ')'
    match s.dropWhile fun c => c ≠ ':' && c ≠ ')' with
    | ':' :: rest => if areFlags letters then some (flagged letters, rest) else none
    | ')' :: rest =>
      if areFlags letters && !letters.isEmpty then some (flags letters, rest) else none
    | _ => none
  | s => some (group none, s)

end Opening
end CallHistory.Report.Pattern
