import Bindings.Number.Binary64

/-!
# Decimal text of double-precision numbers

`Binary64.shortest` finds the fewest significant digits that read back as the same number: on each grid of 1, 2, … 17
digits it tests the two grid points next to the number against the interval of reals that round to it, and takes the
nearer of the points that lie inside. `Layout` says how digits become text.
-/

namespace Bindings

/-- The number `coefficient * 10 ^ exponent`. -/
structure Decimal where
  coefficient : Nat
  exponent : Int
deriving DecidableEq, Inhabited

namespace Decimal

def digits (n : Nat) : List Char :=
  Nat.toDigits 10 n

/-- The exponent of the first digit, as in scientific notation. -/
def leading (d : Decimal) : Int :=
  d.exponent + (digits d.coefficient).length - 1

/-- The digits with the point in its place, and at least `places` digits after the point. -/
def positional (places : Nat) (d : Decimal) : List Char :=
  match d.exponent with
  | .ofNat e =>
    digits (d.coefficient * Nat.pow 10 e) ++ if places = 0 then [] else '.' :: List.replicate places '0'
  | .negSucc e =>
    let after := digits (d.coefficient % Nat.pow 10 (e + 1))
    digits (d.coefficient / Nat.pow 10 (e + 1)) ++ '.' :: (List.replicate (e + 1 - after.length) '0' ++ after)
      ++ List.replicate (places - (e + 1)) '0'

/-- One digit, the others after a point, and the exponent with its sign. -/
def scientific (d : Decimal) : List Char :=
  let mantissa := match digits d.coefficient with
    | [] => []
    | [c] => [c]
    | c :: cs => c :: '.' :: cs
  let power := d.leading
  mantissa ++ ['e', if power < 0 then '-' else '+'] ++ digits power.natAbs

end Decimal

namespace Binary64

/-- Which of two equally near points is taken. -/
inductive Tie where
  | even
  | up
deriving DecidableEq

/-- The exponent of the first decimal digit of `num / den`, for a ratio of at least `10 ^ -400`. -/
def leadingExponent (num den : Nat) : Int :=
  ((Decimal.digits (num * Nat.pow 10 400 / den)).length : Int) - 401

/-- The reals that round to a number, as numerators over the denominator `4 * 2 ^ 1074`. -/
structure Interval where
  low : Nat
  high : Nat
  closed : Bool

/-- Below a power of two the neighbouring numbers lie twice as close. -/
def interval (x : Binary64) : Interval where
  low :=
    (if x.fractionField = 0 ∧ 1 < x.exponentField then 4 * x.significand - 1 else 4 * x.significand - 2)
      * Nat.pow 2 x.unit
  high := (4 * x.significand + 2) * Nat.pow 2 x.unit
  closed := x.significand % 2 == 0

def Interval.contains (i : Interval) (n scale : Nat) : Bool :=
  if i.closed then i.low * scale ≤ n && n ≤ i.high * scale else i.low * scale < n && n < i.high * scale

/-- The grid point with exponent `e` that lies nearest to `x` among those that round to it. -/
def nearestOn (tie : Tie) (x : Binary64) (e : Int) : Option Decimal :=
  let up := Nat.pow 10 e.toNat
  let down := Nat.pow 10 (-e).toNat
  let value := 4 * x.scaled * down
  let step := 4 * Nat.pow 2 1074 * up
  let below := value / step
  let inside (k : Nat) : Bool := x.interval.contains (k * step) down
  let twice := 2 * (value % step)
  let upper := step < twice || (twice == step && (tie == .up || below % 2 == 1))
  match inside below, inside (below + 1) with
  | true, true => some ⟨if upper then below + 1 else below, e⟩
  | true, false => some ⟨below, e⟩
  | false, true => some ⟨below + 1, e⟩
  | false, false => none

/-- A coefficient without zeros at its end, of at most `fuel + 1` digits. -/
def withoutZeros : Nat → Decimal → Decimal
  | 0, d => d
  | fuel + 1, d =>
    if d.coefficient % 10 = 0 ∧ d.coefficient ≠ 0 then withoutZeros fuel ⟨d.coefficient / 10, d.exponent + 1⟩ else d

/-- The shortest decimal that reads back as the finite number `x`, without its sign. -/
def shortest (tie : Tie) (x : Binary64) : Decimal :=
  if x.isZero then ⟨0, 0⟩
  else
    let lead := leadingExponent x.scaled (Nat.pow 2 1074)
    let found := (List.range 17).findSome? fun (n : Nat) => x.nearestOn tie (lead - (n : Int))
    withoutZeros 17 (found.getD ⟨x.scaled, 0⟩)

/-- How the digits of a number are laid out. -/
structure Layout where
  tie : Tie
  /-- The least and the greatest leading exponent written positionally; without them every number is. -/
  positional : Option (Int × Int)
  /-- Digits written after the point at the least. -/
  places : Nat

def Layout.writes (l : Layout) (x : Binary64) : List Char :=
  let d := x.shortest l.tie
  let isPositional := match l.positional with
    | none => true
    | some (least, greatest) => x.isZero || (least ≤ d.leading && d.leading ≤ greatest)
  (if x.isNegative then ['-'] else []) ++ if isPositional then d.positional l.places else d.scientific

/-- The whole digits of a number without fractional part, and one zero after the point. -/
def integralText (x : Binary64) : List Char :=
  (if x.isNegative then ['-'] else []) ++ Decimal.digits (x.scaled / Nat.pow 2 1074) ++ ['.', '0']

end Binary64

end Bindings
