import CallHistory.Text.Hex

/-! # TOML strings

Strings stand between double quotes, where a backslash escapes, or between single quotes, where
nothing does. Tripled quotes let a string go on over several lines; there one or two quotes may
stand inside, and up to two more right before the closing ones.
-/

namespace CallHistory.Toml

def isPrintable (c : Char) : Bool :=
  c = '\t' || (0x20 ≤ c.toNat && c.toNat ≠ 0x7F)

def escaped? : Char → Option Char
  | 'b' => some '\x08'
  | 't' => some '\t'
  | 'n' => some '\n'
  | 'f' => some '\x0c'
  | 'r' => some '\r'
  | '"' => some '"'
  | '\\' => some '\\'
  | _ => none

inductive Spot where
  | plain
  /-- After a backslash. -/
  | escape
  /-- In a numeric escape, with so many digits to come. -/
  | code (left : Nat) (digits : List (Fin 16))
  /-- After so many quotes. -/
  | quotes (n : Nat)
  /-- Between a carriage return and its line feed, which is part of the string or not. -/
  | line (kept : Bool)
  /-- Between a backslash and the end of its line. -/
  | gap
  /-- In the white space that a backslash at the end of a line takes away. -/
  | fold

def charOf? (n : Nat) : Option Char :=
  if n.isValidChar then some (.ofNat n) else none

/-- A character after the quotes of a string have been looked at. `many` is for strings of several
lines, `escapes` for those in which a backslash escapes. -/
def plain? (many escapes : Bool) (read : List Char) (c : Char) : Option (Spot × List Char) :=
  if c = '\\' && escapes then some (.escape, read)
  else if many && c = '\n' then some (.plain, c :: read)
  else if many && c = '\r' then some (.line true, read)
  else if isPrintable c then some (.plain, c :: read)
  else none

def spot? (many escapes : Bool) (read : List Char) (c : Char) : Spot → Option (Spot × List Char)
  | .escape =>
    if c = 'u' then some (.code 4 [], read)
    else if c = 'U' then some (.code 8 [], read)
    else if many && (c = ' ' || c = '\t') then some (.gap, read)
    else if many && c = '\n' then some (.fold, read)
    else if many && c = '\r' then some (.line false, read)
    else (escaped? c).map fun e => (.plain, e :: read)
  | .code left digits =>
    (Text.Hex.digit? c).bind fun d =>
      if 1 < left then some (.code (left - 1) (digits ++ [d]), read)
      else (charOf? (Text.Hex.value (digits ++ [d]))).map fun e => (.plain, e :: read)
  | .line kept =>
    if c = '\n' then some (if kept then (.plain, c :: read) else (.fold, read)) else none
  | .gap =>
    if c = ' ' || c = '\t' then some (.gap, read)
    else if c = '\n' then some (.fold, read)
    else if c = '\r' then some (.line false, read)
    else none
  | .fold =>
    if c = ' ' || c = '\t' || c = '\n' then some (.fold, read)
    else if c = '\r' then some (.line false, read)
    else plain? many escapes read c
  | .plain | .quotes _ => plain? many escapes read c

/-- Reads a string of one line after its opening quote: what it holds and what follows it. -/
def oneLine? (quote : Char) (escapes : Bool) :
    Spot → List Char → List Char → Option (List Char × List Char)
  | _, _, [] => none
  | .plain, read, c :: rest =>
    if c = quote then some (read.reverse, rest)
    else (plain? false escapes read c).bind fun (spot, read) =>
      oneLine? quote escapes spot read rest
  | spot, read, c :: rest =>
    (spot? false escapes read c spot).bind fun (spot, read) => oneLine? quote escapes spot read rest

def manyLines? (quote : Char) (escapes : Bool) :
    Spot → List Char → List Char → Option (List Char × List Char)
  | .quotes n, read, [] =>
    if 3 ≤ n then some (read.reverse ++ List.replicate (n - 3) quote, []) else none
  | _, _, [] => none
  | .quotes n, read, c :: rest =>
    if c = quote then (if n < 5 then manyLines? quote escapes (.quotes (n + 1)) read rest else none)
    else if 3 ≤ n then some (read.reverse ++ List.replicate (n - 3) quote, c :: rest)
    else (plain? true escapes (List.replicate n quote ++ read) c).bind fun (spot, read) =>
      manyLines? quote escapes spot read rest
  | .escape, read, c :: rest =>
    (spot? true escapes read c .escape).bind fun (spot, read) =>
      manyLines? quote escapes spot read rest
  | spot, read, c :: rest =>
    if c = quote then
      match spot with
      | .plain | .fold => manyLines? quote escapes (.quotes 1) read rest
      | _ => none
    else (spot? true escapes read c spot).bind fun (spot, read) =>
      manyLines? quote escapes spot read rest

def quoted? : List Char → Option (List Char × List Char)
  | '"' :: rest => oneLine? '"' true .plain [] rest
  | '\'' :: rest => oneLine? '\'' false .plain [] rest
  | _ => none

def dropLineEnd : List Char → List Char
  | '\n' :: rest => rest
  | '\r' :: '\n' :: rest => rest
  | s => s

def string? : List Char → Option (List Char × List Char)
  | '"' :: '"' :: '"' :: rest => manyLines? '"' true .plain [] (dropLineEnd rest)
  | '\'' :: '\'' :: '\'' :: rest => manyLines? '\'' false .plain [] (dropLineEnd rest)
  | s => quoted? s

end CallHistory.Toml
