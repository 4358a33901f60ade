import CallHistory.Text.Search

/-! # Masked addresses

The password of a database address stands between the first colon and the last at sign of its
authority, the part between `://` and the next slash. It is shown as four asterisks.
-/

namespace CallHistory.Settings

def asterisks : List Char := ['*', '*', '*', '*']

def maskAuthority (authority : List Char) : List Char :=
  match Text.cutLast? '@' authority with
  | none => authority
  | some (user, host) =>
    match Text.cut? [':'] user with
    | none => authority
    | some (name, _) => name ++ ':' :: asterisks ++ '@' :: host

def splitAuthority (s : List Char) : List Char × List Char :=
  s.span (· ≠ '/')

/-- An address with its password hidden; without `://` the authority starts at once. -/
def mask (url : List Char) : List Char :=
  match Text.cut? "://".toList url with
  | none => maskAuthority (splitAuthority url).1 ++ (splitAuthority url).2
  | some (scheme, rest) =>
    scheme ++ "://".toList ++ maskAuthority (splitAuthority rest).1 ++ (splitAuthority rest).2

end CallHistory.Settings
