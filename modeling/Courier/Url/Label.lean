import Courier.Text.Composition
import Courier.Text.Direction
import Courier.Text.Joining
import Courier.Text.Split
import Courier.Url.Allowed
import Courier.Url.Punycode

/-!
# International domains

A label that begins with `xn--` stands for one with characters beyond ASCII. It has to
decode to such a label, and that label has to be one that could have been written so : of
allowed characters, composed, without a mark at its front, with joiners where they belong.
If any label of a domain runs from right to left, all of them keep the rules that let a
reader tell where each begins and ends.
-/

namespace Courier.Url.Label

/-- What labels in punycode begin with. -/
def marker : List Char :=
  "xn--".toList

/-- The greatest length of what follows the marker. -/
def maxEncoded : Nat :=
  2000

/-- Whether a label beyond ASCII is one that can be written. -/
def isWritable (label : List Char) : Bool :=
  label.any (· > '\x7f')
    && label.all (fun c => c ≤ '\x7f' || isAllowed c)
    && !(label.head?.map Text.isMark).getD false
    && label.take 4 ≠ marker
    && Text.isComposed label
    && Text.joinersFit [] label

/-- The label that a label in small ASCII letters stands for. -/
def decode? (label : List Char) : Option (List Char) :=
  if label.take 4 = marker then
    let rest := label.drop 4
    if rest = [] ∨ rest.length > maxEncoded then none
    else
      (Punycode.decode? rest).bind fun decoded =>
        if isWritable decoded then some decoded else none
  else some label

/-! ### Direction -/

open Text (Direction)

/-- The directional classes of a label without the marks at its end. -/
def directions (label : List Char) : List Direction :=
  ((label.map Direction.ofChar).reverse.dropWhile (· = .mark)).reverse

/-- A class that any label may hold. -/
def isWeak (d : Direction) : Bool :=
  d ∈ [.number, .sign, .separator, .terminator, .neutral, .boundary, .mark]

/-- Whether a label keeps the rules of direction. -/
def isReadable (label : List Char) : Bool :=
  let ds := directions label
  match ds.head?, ds.getLast? with
  | some first, some last =>
    if first = .left then
      ds.all (fun d => d = .left || isWeak d) && decide (last = .left ∨ last = .number)
    else if first = .right ∨ first = .arabic then
      ds.all (fun d => d.isRightward || isWeak d)
        && decide (last = .right ∨ last = .arabic ∨ last = .number ∨ last = .arabicNumber)
        && !(ds.contains .number && ds.contains .arabicNumber)
    else false
  | _, _ => true

/-- Whether all labels of a domain in small ASCII letters stand for labels. -/
def isDomain (name : List Char) : Bool :=
  match (Text.splitAt '.' name).mapM decode? with
  | none => false
  | some labels =>
    !(labels.any fun l => l.any fun c => (Direction.ofChar c).isRightward) || labels.all isReadable

end Courier.Url.Label
