import Bindings.Json.Numeral

/-!
# Tokens

`Token.ofText?` cuts a text into brackets, separators, words, numerals and quoted texts. Blanks between tokens are
spaces, tabs and line ends. A quoted text may name code units by number; `joinPieces` combines surrogate pairs and
refuses a lone surrogate.
-/

namespace Bindings.Json

/-- A part of a quoted text: a character, or a 16-bit code unit given by its number. -/
inductive Piece where
  | char (c : Char)
  | unit (n : Nat)

/-- The text that pieces form after a waiting first half of a pair and the characters read so far, newest first. -/
def joinPieces : Option Nat → List Piece → List Char → Option String
  | none, [], read => some (String.ofList read.reverse)
  | none, .char c :: ps, read => joinPieces none ps (c :: read)
  | none, .unit n :: ps, read =>
    if 0xD800 ≤ n ∧ n < 0xDC00 then joinPieces (some n) ps read
    else if 0xDC00 ≤ n ∧ n < 0xE000 then none
    else joinPieces none ps (Char.ofNat n :: read)
  | some first, .unit n :: ps, read =>
    if 0xDC00 ≤ n ∧ n < 0xE000 then
      joinPieces none ps (Char.ofNat (0x10000 + (first - 0xD800) * 0x400 + (n - 0xDC00)) :: read)
    else none
  | some _, _, _ => none

/-- A text of `none` is well written but names a lone surrogate. -/
inductive Token where
  | openList
  | closeList
  | openObject
  | closeObject
  | colon
  | comma
  | null
  | bool (value : Bool)
  | numeral (n : Numeral)
  | text (s : Option String)

namespace Token

/-! ## Quoted texts -/

def hexDigit? (c : Char) : Option Nat :=
  if '0' ≤ c ∧ c ≤ '9' then some (c.toNat - 48)
  else if 'a' ≤ c ∧ c ≤ 'f' then some (c.toNat - 87)
  else if 'A' ≤ c ∧ c ≤ 'F' then some (c.toNat - 55)
  else none

/-- The character that a letter stands for after a backslash. -/
def escape? (c : Char) : Option Char :=
  match c with
  | '"' => some '"'
  | '\\' => some '\\'
  | '/' => some '/'
  | 'b' => some '\x08'
  | 'f' => some '\x0c'
  | 'n' => some '\n'
  | 'r' => some '\r'
  | 't' => some '\t'
  | _ => none

/-- The pieces up to the closing quote, after those read so far, newest first. -/
def pieces : List Char → List Piece → Option (List Piece × List Char)
  | [], _ => none
  | '"' :: cs, read => some (read.reverse, cs)
  | '\\' :: 'u' :: a :: b :: c :: d :: cs, read =>
    match hexDigit? a, hexDigit? b, hexDigit? c, hexDigit? d with
    | some a, some b, some c, some d => pieces cs (.unit (((a * 16 + b) * 16 + c) * 16 + d) :: read)
    | _, _, _, _ => none
  | '\\' :: e :: cs, read =>
    match escape? e with
    | some c => pieces cs (.char c :: read)
    | none => none
  | c :: cs, read => if c = '\\' ∨ c.toNat < 0x20 then none else pieces cs (.char c :: read)

/-! ## Numerals -/

def isDigit (c : Char) : Bool := '0' ≤ c && c ≤ '9'

/-- The leading digits and what follows them. -/
def digits (cs : List Char) : List Nat × List Char :=
  ((cs.takeWhile isDigit).map (·.toNat - 48), cs.dropWhile isDigit)

/-- Digits of which there must be one. -/
def someDigits (cs : List Char) : Option (List Nat × List Char) :=
  match digits cs with
  | ([], _) => none
  | (ds, rest) => some (ds, rest)

/-- A single zero, or digits that do not start with zero. -/
def whole (cs : List Char) : Option (List Nat × List Char) :=
  match cs with
  | '0' :: rest => some ([0], rest)
  | cs => someDigits cs

def fraction (cs : List Char) : Option (List Nat × List Char) :=
  match cs with
  | '.' :: rest => someDigits rest
  | cs => some ([], cs)

/-- The sign and digits after an `e`. -/
def power (cs : List Char) : Option (Bool × List Nat × List Char) :=
  match cs with
  | '-' :: rest => (someDigits rest).map (true, ·)
  | '+' :: rest => (someDigits rest).map (false, ·)
  | cs => (someDigits cs).map (false, ·)

def exponent (cs : List Char) : Option (Option (Bool × List Nat) × List Char) :=
  let marked (rest : List Char) := (power rest).map fun (down, ds, rest) => (some (down, ds), rest)
  match cs with
  | 'e' :: rest => marked rest
  | 'E' :: rest => marked rest
  | cs => some (none, cs)

/-- A numeral after its sign. -/
def unsigned (negative : Bool) (cs : List Char) : Option (Numeral × List Char) := do
  let (whole, cs) ← whole cs
  let (fraction, cs) ← fraction cs
  let (exponent, cs) ← exponent cs
  return (⟨negative, whole, fraction, exponent⟩, cs)

/-! ## Tokens -/

def isBlank (c : Char) : Bool := c == ' ' || c == '\t' || c == '\n' || c == '\r'

/-- The token that a text without blanks before it starts with, and the rest. -/
def first : List Char → Option (Token × List Char)
  | '[' :: cs => some (.openList, cs)
  | ']' :: cs => some (.closeList, cs)
  | '{' :: cs => some (.openObject, cs)
  | '}' :: cs => some (.closeObject, cs)
  | ':' :: cs => some (.colon, cs)
  | ',' :: cs => some (.comma, cs)
  | 'n' :: 'u' :: 'l' :: 'l' :: cs => some (.null, cs)
  | 't' :: 'r' :: 'u' :: 'e' :: cs => some (.bool true, cs)
  | 'f' :: 'a' :: 'l' :: 's' :: 'e' :: cs => some (.bool false, cs)
  | '"' :: cs => (pieces cs []).map fun (ps, rest) => (.text (joinPieces none ps []), rest)
  | '-' :: cs => (unsigned true cs).map fun (n, rest) => (.numeral n, rest)
  | cs => (unsigned false cs).map fun (n, rest) => (.numeral n, rest)

/-- The tokens of a text of at most `fuel` tokens, after those read so far, newest first. -/
def scan : Nat → List Char → List Token → Option (List Token)
  | fuel, cs, read =>
    match cs.dropWhile isBlank with
    | [] => some read.reverse
    | c :: cs =>
      match fuel with
      | 0 => none
      | fuel + 1 =>
        match first (c :: cs) with
        | some (t, rest) => scan fuel rest (t :: read)
        | none => none

/-- The tokens of a text; a text has no more tokens than characters. -/
def ofText? (s : String) : Option (List Token) :=
  scan s.toList.length s.toList []

end Token

end Bindings.Json
