import Bindings.Data

/-!
# Numerals

A numeral as it is written, and the number it stands for: an integer if it has neither a fraction nor an exponent and
fits into 64 bits, else a floating-point number.

A floating-point numeral counts as many leading digits as fit into 64 bits (`leadDigits`); the number they form is
rounded and then scaled by powers of ten, each step rounding once (`scale`). A numeral too large for a finite number
has no value.
-/

namespace Bindings.Json

/-- Digits are given by their values, the first one first. -/
structure Numeral where
  negative : Bool
  whole : List Nat
  fraction : List Nat
  exponent : Option (Bool × List Nat)
deriving DecidableEq, Inhabited

namespace Numeral

def isInteger (n : Numeral) : Bool :=
  n.fraction.isEmpty && n.exponent.isNone

/-- The number written by `digits` after those of `start`. -/
def natOf (start : Nat) (digits : List Nat) : Nat :=
  digits.foldl (fun n d => 10 * n + d) start

/-- The digits that still fit below `bound` after those of `start`, and how many do not. -/
def leadDigits (bound start : Nat) : List Nat → Nat × Nat
  | [] => (start, 0)
  | d :: ds => if 10 * start + d < bound then leadDigits bound (10 * start + d) ds else (start, ds.length + 1)

/-- `10 ^ 308`, the largest power of ten among the finite numbers. -/
def largestPower : Binary64 :=
  .ofDecimal false 1 308

/-- `x / 10 ^ e`, at most 308 powers at a time. -/
def scaleDown (x : Binary64) (e : Nat) : Binary64 :=
  if e ≤ 308 then x.div (.ofDecimal false 1 e)
  else if x.isZero then x
  else scaleDown (x.div largestPower) (e - 308)
termination_by e

/-- `x * 10 ^ e`, unless it is too large. -/
def scale (x : Binary64) (e : Int) : Option Binary64 :=
  match e with
  | .ofNat e =>
    if e ≤ 308 then
      let y := x.mul (.ofDecimal false 1 e)
      if y.isFinite then some y else none
    else if x.isZero then some x else none
  | .negSucc e => some (scaleDown x (e + 1))

/-- The largest exponent that is taken at its value. -/
def largestExponent : Nat := 2147483647

/-- The number a numeral stands for when it is read as a floating-point number. -/
def float? (n : Numeral) : Option Binary64 :=
  let (lead, spare) := leadDigits unsignedLimit 0 n.whole
  let (significand, unused) := leadDigits unsignedLimit lead n.fraction
  let power : Int := spare - (n.fraction.length - unused : Nat)
  let signed (x : Binary64) : Binary64 := if n.negative then x.neg else x
  match n.exponent with
  | none => (scale (.ofInt significand) power).map signed
  | some (down, digits) =>
    let e := natOf 0 digits
    if largestExponent < e then
      if significand ≠ 0 ∧ !down then none else some (.zero n.negative)
    else (scale (.ofInt significand) (if down then power - e else power + e)).map signed

/--
The value of a numeral. Integers reach from `-2 ^ 63` to `2 ^ 64 - 1`; a zero with a minus sign and an integer beyond
these bounds are floating-point numbers.
-/
def toData? (n : Numeral) : Option Data :=
  let magnitude := natOf 0 n.whole
  if n.isInteger && n.negative && 0 < magnitude && magnitude ≤ signedLimit then some (.int (-magnitude))
  else if n.isInteger && !n.negative && magnitude < unsignedLimit then some (.int magnitude)
  else n.float?.map .float

end Numeral

end Bindings.Json
