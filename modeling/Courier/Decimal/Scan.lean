import Courier.Decimal.Binary64
import Courier.Text.Ascii

/-!
# Reading doubles

`Real64.parse?` reads the decimal notation of a double : an optional sign, digits with an
optional point, an optional exponent, or one of the words for infinity and for what is no
number, in any case of letters. The value is the double nearest to the number written.
-/

namespace Courier.Real64

/-- The digits at the front, and what follows them. -/
def spanDigits (cs : List Char) : List Char × List Char :=
  (cs.takeWhile Ascii.isDigit, cs.dropWhile Ascii.isDigit)

/-- The number that digits write. -/
def valueOf (digits : List Char) : Nat :=
  digits.foldl (fun n c => n * 10 + (c.toNat - '0'.toNat)) 0

/-- An exponent at the end of a number, zero if there is none. -/
def exponent? : List Char → Option Int
  | [] => some 0
  | c :: rest =>
    if c = 'e' ∨ c = 'E' then
      let (negative, rest) := match rest with
        | '-' :: rest => (true, rest)
        | '+' :: rest => (false, rest)
        | rest => (false, rest)
      let (digits, rest) := spanDigits rest
      if digits = [] ∨ rest ≠ [] then none
      else some (if negative then -(valueOf digits : Int) else valueOf digits)
    else none

/-- The number nearest to `digits * 10 ^ power`. Powers beyond what a double can hold are
settled without computing them. -/
def ofDecimal (negative : Bool) (digits : Nat) (power : Int) : Real64 :=
  let size : Int := (Nat.toDigits 10 digits).length
  if digits = 0 ∨ power + size < -330 then .finite (.zero negative)
  else if power + size > 310 then .infinite negative
  else match Binary64.ofDecimal? negative digits power with
    | some x => .finite x
    | none => .infinite negative

/-- A number without its sign. -/
def unsigned? (negative : Bool) (cs : List Char) : Option Real64 :=
  let word := cs.map Ascii.lower
  if word = "inf".toList ∨ word = "infinity".toList then some (.infinite negative)
  else if word = "nan".toList then some .notANumber
  else
    let (whole, rest) := spanDigits cs
    let (part, rest) := match rest with
      | '.' :: rest => spanDigits rest
      | rest => ([], rest)
    if whole = [] ∧ part = [] then none
    else (exponent? rest).map fun e =>
      ofDecimal negative (valueOf (whole ++ part)) (e - part.length)

/-- The double that a text writes. -/
def parse? (s : String) : Option Real64 :=
  match s.toList with
  | '-' :: rest => unsigned? true rest
  | '+' :: rest => unsigned? false rest
  | cs => unsigned? false cs

end Courier.Real64
