import Bindings.Data
import Bindings.Toml.Moment

/-!
# Numerals

Integers in four bases and floating-point numbers. Single underscores may stand between digits. A floating-point number
is the nearest to its numeral; one that is too large is refused, unless it is negative.
-/

namespace Bindings.Toml

/-- More digits after those read so far, newest first; an underscore has to be followed by a digit. -/
def moreDigits (isDigit : Char → Bool) : List Char → List Char → Option (List Char × List Char)
  | '_' :: c :: cs, read => if isDigit c then moreDigits isDigit cs (c :: read) else none
  | ['_'], _ => none
  | c :: cs, read => if isDigit c then moreDigits isDigit cs (c :: read) else some (read.reverse, c :: cs)
  | [], read => some (read.reverse, [])

def someDigits (isDigit : Char → Bool) : List Char → Option (List Char × List Char)
  | c :: cs => if isDigit c then moreDigits isDigit cs [c] else none
  | [] => none

/-- The digits of an integer in base ten, which start with zero only if they are a single zero. -/
def wholeDigits : List Char → Option (List Char × List Char)
  | '0' :: cs => some (['0'], cs)
  | cs => someDigits isDigit cs

def sign : List Char → Bool × List Char
  | '-' :: cs => (true, cs)
  | '+' :: cs => (false, cs)
  | cs => (false, cs)

/-- A signed 64-bit integer. -/
def integer? (i : Int) : Option Data :=
  if FitsSigned i then some (.int i) else none

def baseDigit (base : Nat) (c : Char) : Bool :=
  isDigit c && c.toNat < 48 + base || base == 16 && (('a' ≤ c && c ≤ 'f') || ('A' ≤ c && c ≤ 'F'))

def digitValue (c : Char) : Nat :=
  if isDigit c then c.toNat - 48 else if 'a' ≤ c then c.toNat - 87 else c.toNat - 55

/-- The digits of an integer in another base, after the mark of the base. -/
def based? (base : Nat) (cs : List Char) : Option (Data × List Char) := do
  let (ds, cs) ← someDigits (baseDigit base) cs
  let i ← integer? (ds.foldl (fun n c => base * n + digitValue c) 0 : Nat)
  return (i, cs)

/-- The fraction after whole digits, if there is one. -/
def fraction? : List Char → Option (List Char × List Char)
  | '.' :: cs => someDigits isDigit cs
  | cs => some ([], cs)

/-- The exponent after digits, if there is one. -/
def exponent? (cs : List Char) : Option (Option Int × List Char) :=
  match cs with
  | c :: rest =>
    if c = 'e' ∨ c = 'E' then
      let (negative, rest) := sign rest
      (someDigits isDigit rest).map fun (ds, rest) =>
        (some (if negative then -(digitsValue ds : Int) else digitsValue ds), rest)
    else some (none, cs)
  | [] => some (none, cs)

/-- Beyond this many places from the point a number is infinite or zero. -/
def furthestPlace : Int := 400

/-- The number with the given digits, scaled by a power of ten; a positive one must not be infinite. -/
def float? (negative : Bool) (digits : Nat) (exponent : Int) : Option Data :=
  let place : Int := (Nat.toDigits 10 digits).length + exponent
  let x : Binary64 :=
    if digits = 0 ∨ place < -furthestPlace then .zero negative
    else if furthestPlace < place then .infinity negative
    else .ofDecimal negative digits exponent
  if x = .infinity false then none else some (.float x)

/-- Infinity or the value that is no number, after its sign. -/
def special? (negative : Bool) : List Char → Option (Data × List Char)
  | 'i' :: 'n' :: 'f' :: cs => some (.float (.infinity negative), cs)
  | 'n' :: 'a' :: 'n' :: cs => some (.float (.nan negative), cs)
  | _ => none

def decimal? (negative : Bool) (cs : List Char) : Option (Data × List Char) := do
  let (whole, cs) ← wholeDigits cs
  let (fraction, cs) ← fraction? cs
  let (exponent, cs) ← exponent? cs
  let value ←
    if fraction.isEmpty && exponent.isNone then
      integer? (if negative then -(digitsValue whole : Int) else digitsValue whole)
    else float? negative (digitsValue (whole ++ fraction)) (exponent.getD 0 - fraction.length)
  return (value, cs)

/-- A number that is not a moment. -/
def number? (cs : List Char) : Option (Data × List Char) :=
  match cs with
  | '0' :: 'x' :: cs => based? 16 cs
  | '0' :: 'o' :: cs => based? 8 cs
  | '0' :: 'b' :: cs => based? 2 cs
  | cs =>
    let (negative, cs) := sign cs
    special? negative cs <|> decimal? negative cs

end Bindings.Toml
