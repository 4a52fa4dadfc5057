import Courier.Json.Basic
import Courier.Text.Natural

/-!
# Reading JSON numbers

A numeral is an integer if it has neither a part after the point nor an exponent and
fits a word of 64 bits with its sign ; minus zero and every other numeral is a double.
The double is computed from the digits that fit an unsigned word of 64 bits : their value
is rounded to a double and multiplied or divided by a rounded power of ten. A numeral
beyond the finite doubles has no value.
-/

namespace Courier.Json

/-- The parts of a numeral. -/
structure Numeral where
  negative : Bool
  whole : List Char
  part : Option (List Char) := none
  /-- Whether the exponent is negative, and its digits. -/
  exponent : Option (Bool × List Char) := none
  deriving Repr, DecidableEq

namespace Numeral

/-- The digits read so far as a number below `2 ^ 64`, and the count of digits that came after
the first one that did not fit. -/
structure Significand where
  value : Nat := 0
  dropped : Nat := 0
  kept : Nat := 0
  full : Bool := false

/-- Read one more digit. -/
def Significand.push (s : Significand) (c : Char) : Significand :=
  let next := s.value * 10 + (c.toNat - '0'.toNat)
  if s.full ∨ next ≥ Natural.bound64 then { s with dropped := s.dropped + 1, full := true }
  else { s with value := next, kept := s.kept + 1 }

/-- The rounded power of ten. -/
def tenTo (n : Nat) : Binary64 :=
  (Binary64.ofNat? (Nat.pow 10 n)).getD (.zero false)

/-- Scale by a power of ten, in steps that a double can hold. -/
def scale : Nat → Binary64 → Int → Option Binary64
  | 0, x, _ => some x
  | fuel + 1, x, power =>
    if power.natAbs ≤ 308 then
      if power ≥ 0 then x.mul? (tenTo power.toNat) else x.div? (tenTo (-power).toNat)
    else if x.isZero then some x
    else if power ≥ 0 then none
    else (x.div? (tenTo 308)).bind fun x => scale fuel x (power + 308)

/-- The double `value * 10 ^ power`. -/
def assemble (negative : Bool) (value : Nat) (power : Int) : Option Binary64 :=
  ((Binary64.ofNat? value).bind fun x => scale 12 x power).map fun x => { x with negative }

/-- The exponent written in a numeral. A positive one that is too long for a word rules
out every value but zero ; a negative one makes the value zero. -/
def power (n : Numeral) (value : Nat) : Except (Option Binary64) Int :=
  match n.exponent with
  | none => .ok 0
  | some (negative, digits) =>
    let e := Natural.ofDigits digits
    if e ≤ 2147483647 then .ok (if negative then -(e : Int) else e)
    else if negative ∨ value = 0 then .error (some (.zero n.negative))
    else .error none

/-- A numeral as a double. Digits of the whole part that do not fit raise the power of ten,
digits after the point lower it. -/
def real? (n : Numeral) : Option Binary64 :=
  let whole := n.whole.foldl Significand.push {}
  let all := (n.part.getD []).foldl Significand.push { value := whole.value }
  let shift : Int := (whole.dropped : Int) - all.kept
  match n.power all.value with
  | .ok e => assemble n.negative all.value (shift + e)
  | .error x => x

/-- The value of a numeral, and `none` if it is beyond the finite doubles. An integer of more than
20 digits fits no word. -/
def value? (n : Numeral) : Option Number :=
  if n.part.isNone ∧ n.exponent.isNone ∧ n.whole.length ≤ 20 then
    let m := Natural.ofDigits n.whole
    if !n.negative ∧ m < Natural.bound64 then some (.integer m)
    else if n.negative ∧ 0 < m ∧ m ≤ Nat.pow 2 63 then some (.integer (-(m : Int)))
    else n.real?.map .real
  else n.real?.map .real

end Numeral

end Courier.Json
