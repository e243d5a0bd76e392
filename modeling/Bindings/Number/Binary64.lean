/-!
# Double-precision numbers

A `Binary64` is the 64-bit pattern of a floating-point number. A finite one stands for
`± significand * 2 ^ unit / 2 ^ 1074`. Arithmetic is exact on natural numbers and rounds once, to the nearest number
and to the even one of two that are equally near.
-/

namespace Bindings

structure Binary64 where
  bits : UInt64
deriving DecidableEq, Inhabited

namespace Binary64

/-! ## The parts of a number -/

def isNegative (x : Binary64) : Bool :=
  Nat.pow 2 63 ≤ x.bits.toNat

def exponentField (x : Binary64) : Nat :=
  x.bits.toNat / Nat.pow 2 52 % Nat.pow 2 11

def fractionField (x : Binary64) : Nat :=
  x.bits.toNat % Nat.pow 2 52

def isFinite (x : Binary64) : Bool :=
  x.exponentField != 2047

def isNaN (x : Binary64) : Bool :=
  x.exponentField == 2047 && x.fractionField != 0

def significand (x : Binary64) : Nat :=
  if x.exponentField = 0 then x.fractionField else Nat.pow 2 52 + x.fractionField

/-- Numbers below the smallest normal one share its unit. -/
def unit (x : Binary64) : Nat :=
  x.exponentField - 1

/-- The magnitude of a finite number as a multiple of the smallest positive one, `1 / 2 ^ 1074`. -/
def scaled (x : Binary64) : Nat :=
  x.significand * Nat.pow 2 x.unit

def isZero (x : Binary64) : Bool :=
  x.scaled == 0

/-- Whether a finite number has no fractional part. -/
def isIntegral (x : Binary64) : Bool :=
  x.scaled % Nat.pow 2 1074 == 0

/-! ## Making numbers -/

/-- The number with the given sign and the given pattern below the sign bit. -/
def ofPattern (negative : Bool) (pattern : Nat) : Binary64 :=
  ⟨UInt64.ofNat ((if negative then Nat.pow 2 63 else 0) + pattern)⟩

def infinity (negative : Bool) : Binary64 :=
  ofPattern negative (2047 * Nat.pow 2 52)

def nan (negative : Bool) : Binary64 :=
  ofPattern negative (2047 * Nat.pow 2 52 + Nat.pow 2 51)

def zero (negative : Bool) : Binary64 :=
  ofPattern negative 0

/-- `num / den` to the nearest natural number, a half to the even one. -/
def roundHalfEven (num den : Nat) : Nat :=
  let q := num / den
  let twice := 2 * (num % den)
  if den < twice || (twice == den && q % 2 == 1) then q + 1 else q

/--
The number nearest to `num / den`, for `0 < den`. The pattern of `m * 2 ^ p / 2 ^ 1074` is `p * 2 ^ 52 + m`, also
when rounding carries `m` up to `2 ^ 53`; a pattern past the largest finite one is infinity.
-/
def ofRatio (negative : Bool) (num den : Nat) : Binary64 :=
  let whole := num * Nat.pow 2 1074 / den
  let p := if whole < Nat.pow 2 53 then 0 else whole.log2 - 52
  let pattern := p * Nat.pow 2 52 + roundHalfEven (num * Nat.pow 2 1074) (den * Nat.pow 2 p)
  if 2047 * Nat.pow 2 52 ≤ pattern then infinity negative else ofPattern negative pattern

def ofInt (i : Int) : Binary64 :=
  ofRatio (i < 0) i.natAbs 1

/-- `± digits * 10 ^ exponent`. -/
def ofDecimal (negative : Bool) (digits : Nat) (exponent : Int) : Binary64 :=
  match exponent with
  | .ofNat e => ofRatio negative (digits * Nat.pow 10 e) 1
  | .negSucc e => ofRatio negative digits (Nat.pow 10 (e + 1))

/-! ## Arithmetic -/

def neg (x : Binary64) : Binary64 :=
  ⟨x.bits ^^^ 0x8000000000000000⟩

/-- The product of two finite numbers. -/
def mul (x y : Binary64) : Binary64 :=
  ofRatio (x.isNegative != y.isNegative) (x.scaled * y.scaled) (Nat.pow 2 2148)

/-- The quotient of a finite number and a finite number other than zero. -/
def div (x y : Binary64) : Binary64 :=
  ofRatio (x.isNegative != y.isNegative) x.scaled y.scaled

end Binary64

end Bindings
