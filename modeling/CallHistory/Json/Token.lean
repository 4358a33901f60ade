import CallHistory.Json.Basic
import CallHistory.Text.Hex

/-! # JSON tokens

A text is scanned character by character. Outside strings, a run of letters, digits, signs and
points is one bare word, which has to be a literal or a numeral; space separates tokens.
-/

namespace CallHistory.Json

inductive Token where
  | braceOpen
  | braceClose
  | bracketOpen
  | bracketClose
  | colon
  | comma
  | null
  | bool (b : Bool)
  | number (n : Numeral)
  | string (s : List Piece)
  deriving DecidableEq, Repr

def isSpace (c : Char) : Bool :=
  c = ' ' || c = '\t' || c = '\n' || c = '\r'

def isBare (c : Char) : Bool :=
  c.isAlphanum || c = '-' || c = '+' || c = '.'

/-- What follows the whole part of a numeral: nothing, or a fraction, an exponent or both. -/
def isTail (s : List Char) : Bool :=
  let digits (s : List Char) := !s.isEmpty && s.all Char.isDigit
  let isExponent (s : List Char) :=
    match s with
    | '+' :: s | '-' :: s => digits s
    | s => digits s
  let isExponentPart (s : List Char) :=
    match s with
    | [] => true
    | c :: s => (c = 'e' || c = 'E') && isExponent s
  match s with
  | '.' :: s => (s.head?.any Char.isDigit) && isExponentPart (s.dropWhile Char.isDigit)
  | s => isExponentPart s

/-- Reads a numeral: an optional sign, a whole part without leading zeros, and its tail. -/
def Numeral.parse? (s : List Char) : Option Numeral :=
  let (negative, s) := match s with
    | '-' :: s => (true, s)
    | s => (false, s)
  let whole := s.takeWhile Char.isDigit
  let tail := s.dropWhile Char.isDigit
  let canonical := match whole with
    | [] => false
    | [_] => true
    | c :: _ => c ≠ '0'
  if canonical && isTail tail then some ⟨negative, Text.Decimal.value whole, tail.isEmpty⟩ else none

def Token.ofWord? (word : List Char) : Option Token :=
  if word = "null".toList then some .null
  else if word = "true".toList then some (.bool true)
  else if word = "false".toList then some (.bool false)
  else (Numeral.parse? word).map .number

def Token.ofPunctuation? : Char → Option Token
  | '\x7b' => some .braceOpen
  | '\x7d' => some .braceClose
  | '[' => some .bracketOpen
  | ']' => some .bracketClose
  | ':' => some .colon
  | ',' => some .comma
  | _ => none

def escaped? : Char → Option Char
  | '"' => some '"'
  | '\\' => some '\\'
  | '/' => some '/'
  | 'b' => some '\x08'
  | 'f' => some '\x0c'
  | 'n' => some '\n'
  | 'r' => some '\r'
  | 't' => some '\t'
  | _ => none

/-- Where a scan stands. What has been read of a word or a string is kept with the last part
first. -/
inductive Mode where
  | between
  | bare (word : List Char)
  | string (read : List Piece)
  | escape (read : List Piece)
  /-- In the digits of a numeric escape. -/
  | code (read : List Piece) (digits : List (Fin 16))
  deriving Repr

/-- A scan: the tokens so far, the last first, and where it stands. -/
structure Scan where
  tokens : List Token := []
  mode : Mode := .between
  deriving Repr

namespace Scan

def enter (tokens : List Token) (c : Char) : Option Scan :=
  if isSpace c then some ⟨tokens, .between⟩
  else if c = '"' then some ⟨tokens, .string []⟩
  else if isBare c then some ⟨tokens, .bare [c]⟩
  else (Token.ofPunctuation? c).map fun t => ⟨t :: tokens, .between⟩

def step (s : Scan) (c : Char) : Option Scan :=
  match s.mode with
  | .between => enter s.tokens c
  | .bare word =>
    if isBare c then some { s with mode := .bare (c :: word) }
    else (Token.ofWord? word.reverse).bind fun t => enter (t :: s.tokens) c
  | .string read =>
    if c = '"' then some ⟨.string read.reverse :: s.tokens, .between⟩
    else if c = '\\' then some { s with mode := .escape read }
    else if c.toNat < 0x20 then none
    else some { s with mode := .string (.char c :: read) }
  | .escape read =>
    if c = 'u' then some { s with mode := .code read [] }
    else (escaped? c).map fun e => { s with mode := .string (.char e :: read) }
  | .code read digits =>
    (Text.Hex.digit? c).map fun d =>
      if digits.length < 3 then { s with mode := .code read (digits ++ [d]) }
      else { s with mode := .string (.code (.ofNat _ (Text.Hex.value (digits ++ [d]))) :: read) }

def finish? (s : Scan) : Option (List Token) :=
  match s.mode with
  | .between => some s.tokens.reverse
  | .bare word => (Token.ofWord? word.reverse).map fun t => (t :: s.tokens).reverse
  | _ => none

end Scan

def scan? (text : List Char) : Option (List Token) :=
  (text.foldlM Scan.step {}).bind Scan.finish?

end CallHistory.Json
