/-!
# Punycode

A label of a domain in ASCII may write characters beyond ASCII : its own characters of
ASCII come first, a hyphen ends them, and numbers to the base 36 say which characters are to
be inserted where. `Punycode.decode?` reads such a label. The numbers are differences, and
the weights of their digits adapt to the numbers before.
-/

namespace Courier.Url.Punycode

/-- The value of a digit. -/
def digit? (c : Char) : Option Nat :=
  if 'a' ≤ c ∧ c ≤ 'z' then some (c.toNat - 'a'.toNat)
  else if '0' ≤ c ∧ c ≤ '9' then some (c.toNat - '0'.toNat + 26)
  else none

/-- The least digit at a place that is not the last one. -/
def threshold (place bias : Nat) : Nat :=
  max 1 (min 26 (place - bias))

/-- Divide a difference until it is small, counting the places that takes. -/
def reduce (delta places : Nat) : Nat × Nat :=
  if delta > 455 then reduce (delta / 35) (places + 36) else (delta, places)
termination_by delta
decreasing_by omega

/-- The bias after a difference, given the number of characters with the new one. -/
def adapt (delta length : Nat) (isFirst : Bool) : Nat :=
  let delta := if isFirst then delta / 700 else delta / 2
  let (delta, places) := reduce (delta + delta / length) 0
  places + 36 * delta / (delta + 38)

/-- Add the number at the front to a sum, and what follows it. -/
def number? (bias : Nat) : Nat → Nat → Nat → List Char → Option (Nat × List Char)
  | _, _, _, [] => none
  | place, weight, sum, c :: rest =>
    match digit? c with
    | none => none
    | some d =>
      let sum := sum + d * weight
      let t := threshold place bias
      if d < t then some (sum, rest) else number? bias (place + 36) (weight * (36 - t)) sum rest

/-- Insert characters into `read`, given the code point of the last one and the place after it. -/
def insertAll? : Nat → Nat → Nat → Nat → List Char → List Char → Option (List Char)
  | 0, _, _, _, _, _ => none
  | _ + 1, _, _, _, read, [] => some read
  | fuel + 1, code, place, bias, read, cs =>
    match number? bias 36 1 place cs with
    | none => none
    | some (sum, rest) =>
      let length := read.length + 1
      let code := code + sum / length
      let bias := adapt (sum - place) length (place = 0)
      if code.isValidChar then
        let read := read.insertIdx (sum % length) (Char.ofNat code)
        insertAll? fuel code (sum % length + 1) bias read rest
      else none

/-- The label that punycode writes. -/
def decode? (cs : List Char) : Option (List Char) :=
  let tail := (cs.reverse.takeWhile (· ≠ '-')).reverse
  let front := cs.take (cs.length - tail.length - 1)
  if front = [] then insertAll? (cs.length + 1) 128 0 72 [] cs
  else insertAll? (cs.length + 1) 128 0 72 front tail

end Courier.Url.Punycode
