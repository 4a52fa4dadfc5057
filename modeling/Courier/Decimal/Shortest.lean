import Courier.Decimal.Binary64

/-!
# Shortest digits

The reals that round to a double form an interval around it. Its ends are half way to the
two neighbouring doubles and belong to it when the mantissa is even. `Binary64.shortest`
looks for the coarsest decimal grid, from one digit to seventeen, with a point in the
interval ; of two such points it takes the one nearer to the double.
-/

namespace Courier.Binary64

/-- A decimal number `digits * 10 ^ power`. -/
structure Digits where
  digits : Nat
  power : Int
  deriving Repr, DecidableEq

/-- A fraction of natural numbers compared with another one. -/
def fractionLe (a b : Nat × Nat) : Bool :=
  a.1 * b.2 ≤ b.1 * a.2

/-- `n * 10 ^ power` as a fraction. -/
def gridPoint (n : Nat) (power : Int) : Nat × Nat :=
  (n * Nat.pow 10 power.toNat, Nat.pow 10 (-power).toNat)

/-- `n * 2 ^ power` as a fraction. -/
def dyadic (n : Nat) (power : Int) : Nat × Nat :=
  (n * Nat.pow 2 power.toNat, Nat.pow 2 (-power).toNat)

/-- The lower end of the interval of reals that round to `x`. Below a power of two the
neighbour is at half the distance. -/
def lowerEnd (x : Binary64) : Nat × Nat :=
  if x.mantissa = Nat.pow 2 52 ∧ x.exponent > minExponent then
    dyadic (4 * x.mantissa - 1) (x.exponent - 2)
  else dyadic (2 * x.mantissa - 1) (x.exponent - 1)

/-- The upper end of the interval of reals that round to `x`. -/
def upperEnd (x : Binary64) : Nat × Nat :=
  dyadic (2 * x.mantissa + 1) (x.exponent - 1)

/-- Whether a fraction rounds to `x`, given the sides of the interval. -/
def roundsTo (x : Binary64) (p : Nat × Nat) : Bool :=
  if x.mantissa % 2 = 0 then fractionLe (lowerEnd x) p && fractionLe p (upperEnd x)
  else !fractionLe p (lowerEnd x) && !fractionLe (upperEnd x) p

/-- How many digits stand before the decimal point, counted below zero for a number with
zeros after the point : the `p` with `10 ^ (p - 1) ≤ num / den < 10 ^ p`. -/
def magnitude (num den : Nat) : Int :=
  if den ≤ num then (Nat.toDigits 10 (num / den)).length
  else
    let k := (Nat.toDigits 10 (den / num)).length
    if num * Nat.pow 10 (k - 1) = den then 2 - (k : Int) else 1 - (k : Int)

/-- Take the zeros off the end of a number's digits. -/
def stripZeros : Nat → Digits → Digits
  | 0, d => d
  | fuel + 1, d =>
    if d.digits ≠ 0 ∧ d.digits % 10 = 0 then stripZeros fuel ⟨d.digits / 10, d.power + 1⟩ else d

/-- The point of the grid `10 ^ power` that stands for `x`, if one of the two around `x` does. -/
def onGrid (x : Binary64) (power : Int) : Option Nat :=
  let (num, den) := x.fraction
  let scaledNum := num * Nat.pow 10 (-power).toNat
  let scaledDen := den * Nat.pow 10 power.toNat
  let low := scaledNum / scaledDen
  let rest := scaledNum % scaledDen
  let lowHits := low ≠ 0 && roundsTo x (gridPoint low power)
  let highHits := roundsTo x (gridPoint (low + 1) power)
  match lowHits, highHits with
  | true, true =>
    if 2 * rest < scaledDen ∨ (2 * rest = scaledDen ∧ low % 2 = 0) then some low else some (low + 1)
  | true, false => some low
  | false, true => some (low + 1)
  | false, false => none

/-- Try grids of one digit more at a time. -/
def search (x : Binary64) (top : Int) : Nat → Nat → Digits
  | 0, count => ⟨(onGrid x (top - count)).getD 0, top - count⟩
  | fuel + 1, count =>
    match onGrid x (top - count) with
    | some n => ⟨n, top - count⟩
    | none => search x top fuel (count + 1)

/-- The fewest digits that read back as `x`, which is not zero. -/
def shortest (x : Binary64) : Digits :=
  let (num, den) := x.fraction
  stripZeros 20 (search x (magnitude num den) 16 1)

end Courier.Binary64
