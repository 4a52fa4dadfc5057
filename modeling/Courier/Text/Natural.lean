/-!
# Natural numbers as decimal text

`digits` and `padded` write a number, `readBounded` reads one that has to fit below a
bound. Reading allows a plus sign and leading zeros, and says which of three things
is wrong : no text, a character that is no digit, or a number too large.
-/

namespace Courier.Natural

/-- The decimal digits of a number, most significant first. -/
def digits (n : Nat) : List Char :=
  Nat.toDigits 10 n

/-- The digits of `n` after enough zeros to make `width` characters. -/
def padded (width n : Nat) : List Char :=
  List.replicate (width - (digits n).length) '0' ++ digits n

/-- Why a text is not a number below a bound. -/
inductive Fault where
  | empty
  | invalidDigit
  | tooLarge
  deriving Repr, DecidableEq

/-- The wording of a fault. -/
def Fault.message : Fault → String
  | .empty => "cannot parse integer from empty string"
  | .invalidDigit => "invalid digit found in string"
  | .tooLarge => "number too large to fit in target type"

/-- The value of a decimal digit. -/
def digit? (c : Char) : Option Nat :=
  if '0' ≤ c ∧ c ≤ '9' then some (c.toNat - '0'.toNat) else none

/-- Continue a number with further digits. The first thing that is wrong from the left
decides the fault. -/
def extendBounded (bound : Nat) : Nat → List Char → Except Fault Nat
  | n, [] => .ok n
  | n, c :: rest =>
    match digit? c with
    | none => .error .invalidDigit
    | some d =>
      let m := n * 10 + d
      if m < bound then extendBounded bound m rest else .error .tooLarge

/-- The number below `bound` that `cs` writes, with an optional plus sign. -/
def readBounded (bound : Nat) (cs : List Char) : Except Fault Nat :=
  match cs with
  | [] => .error .empty
  | ['+'] => .error .invalidDigit
  | '+' :: rest => extendBounded bound 0 rest
  | rest => extendBounded bound 0 rest

/-- The number of digits read back as a value. -/
def ofDigits (cs : List Char) : Nat :=
  cs.foldl (fun n c => n * 10 + (c.toNat - '0'.toNat)) 0

/-- Words of 64 bits lie below this. -/
def bound64 : Nat := Nat.pow 2 64

/-- Words of 32 bits lie below this. -/
def bound32 : Nat := Nat.pow 2 32

end Courier.Natural
