import Courier.Decimal.Shortest

/-!
# Doubles as text

`FloatStyle.write` lays the shortest digits of a double out. A number from `10 ^ -5` up
to `10 ^ 16` is written with its point in place and at least one digit on either side ;
any other one in scientific notation, where a style says whether a positive exponent has
a sign. `fixed` writes a number to a fixed count of places, a tie going to the even digit.
-/

namespace Courier

/-- What formats that write doubles disagree about. -/
structure FloatStyle where
  /-- Whether a positive exponent is written with its sign. -/
  exponentPlus : Bool
  deriving Repr, DecidableEq

namespace FloatStyle

/-- The digits of an exponent with its sign. -/
def exponent (style : FloatStyle) (e : Int) : String :=
  if e < 0 then "e-" ++ toString e.natAbs
  else (if style.exponentPlus then "e+" else "e") ++ toString e.natAbs

/-- Digits with a point in place, or in scientific notation. -/
def layout (style : FloatStyle) (d : Binary64.Digits) : String :=
  let digits := Nat.toDigits 10 d.digits
  let count : Int := digits.length
  let point := count + d.power
  if 0 ≤ d.power ∧ point ≤ 16 then
    String.ofList (digits ++ List.replicate d.power.toNat '0' ++ ['.', '0'])
  else if 0 < point ∧ point ≤ 16 then
    String.ofList (digits.take point.toNat ++ '.' :: digits.drop point.toNat)
  else if -5 < point ∧ point ≤ 0 then
    String.ofList ('0' :: '.' :: List.replicate (-point).toNat '0' ++ digits)
  else
    let body := match digits with
      | [] => []
      | [c] => [c]
      | c :: rest => c :: '.' :: rest
    String.ofList body ++ style.exponent (point - 1)

/-- A finite double. -/
def write (style : FloatStyle) (x : Binary64) : String :=
  let sign := if x.negative then "-" else ""
  if x.isZero then sign ++ "0.0" else sign ++ style.layout x.shortest

/-- A double of any kind. -/
def writeReal (style : FloatStyle) : Real64 → String
  | .finite x => style.write x
  | .infinite negative => if negative then "-inf" else "inf"
  | .notANumber => "NaN"

end FloatStyle

namespace Binary64

/-- The absolute value to `places` places, a tie going to the even digit. -/
def fixed (places : Nat) (x : Binary64) : String :=
  let (num, den) := x.fraction
  let scaled := roundDiv (num * Nat.pow 10 places) den
  let whole := toString (scaled / Nat.pow 10 places)
  if places = 0 then whole
  else
    let part := Nat.toDigits 10 (scaled % Nat.pow 10 places)
    whole ++ "." ++ String.ofList (List.replicate (places - part.length) '0' ++ part)

end Binary64

end Courier
