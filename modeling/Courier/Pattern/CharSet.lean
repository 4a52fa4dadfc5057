import Courier.Text.Ascii
import Courier.Text.Utf8

/-!
# Sets of characters

Patterns are searched in paths of URLs, which are written in ASCII, so a set says which
characters of ASCII it holds. It says the same about `ſ` and `K`, the only other characters
that are an ASCII letter in another case : with them, cases may be folded at any time. Sets
are Boolean algebra on marks, one bit a character. All characters beyond these count as
one, which only a bare range or a complement holds, and a set remembers how much room they
take (`wide`).
-/

namespace Courier.Pattern

/-- A set of characters. -/
structure CharSet where
  /-- A bit for each character that counts. -/
  marks : Nat
  /-- The room that characters beyond ASCII take in a machine, in bytes. -/
  wide : Nat := 0
  deriving Repr, DecidableEq, Inhabited

namespace CharSet

/-- The small letter that is another case of `s`. -/
def longS : Char := '\u017f'

/-- The capital that is another case of `k`. -/
def kelvin : Char := '\u212a'

/-- The bit of a character. -/
def place? (c : Char) : Option Nat :=
  if c.toNat < 128 then some c.toNat
  else if c = longS then some 128
  else if c = kelvin then some 129
  else none

/-- The marks of all characters that count. -/
def allMarks : Nat :=
  Nat.pow 2 130 - 1

/-- Whether a character is in a set. -/
def contains (s : CharSet) (c : Char) : Bool :=
  match place? c with
  | some i => s.marks.testBit i
  | none => decide (s.wide ≠ 0)

/-- No character. -/
def none : CharSet :=
  ⟨0, 0⟩

/-- The characters that are in one set at least. -/
def union (s t : CharSet) : CharSet :=
  ⟨s.marks ||| t.marks, s.wide + t.wide⟩

/-- The characters that are in both sets. -/
def inter (s t : CharSet) : CharSet :=
  ⟨s.marks &&& t.marks, min s.wide t.wide⟩

/-- The characters that are not in a set. -/
def complement (s : CharSet) : CharSet :=
  ⟨allMarks ^^^ s.marks, max s.wide 1000⟩

/-- The characters of the first set that are not in the second. -/
def difference (s t : CharSet) : CharSet :=
  ⟨s.marks &&& (allMarks ^^^ t.marks), s.wide⟩

/-- The characters that are in one set only. -/
def symmetricDifference (s t : CharSet) : CharSet :=
  (s.difference t).union (t.difference s)

/-- The mark of a character between two others. -/
def markBetween (first last c : Char) : Nat :=
  if first ≤ c ∧ c ≤ last then ((place? c).map (Nat.pow 2 ·)).getD 0 else 0

/-- The characters from `first` to `last`. -/
def range (first last : Char) : CharSet :=
  let a := first.toNat
  let b := min last.toNat 127
  let ascii := if a ≤ b then Nat.pow 2 (b + 1) - Nat.pow 2 a else 0
  { marks := ascii ||| markBetween first last longS ||| markBetween first last kelvin
    wide := if last.toNat < 128 then 0
      else if first = last then 32 * (Utf8.encode (String.singleton last)).length
      else 500 }

/-- A single character. -/
def single (c : Char) : CharSet :=
  range c c

/-- The characters of a text. -/
def ofString (s : String) : CharSet :=
  s.toList.foldl (fun t c => t.union (single c)) none

/-- The union of several sets. -/
def unions (sets : List CharSet) : CharSet :=
  sets.foldl union none

/-! ### Letter case -/

/-- The bit of a place in a number, as a number. -/
def bitAt (bits i : Nat) : Nat :=
  (bits >>> i) % 2

/-- The letters of ASCII that a set holds in some case, one bit a letter : `ſ` is a case of the
nineteenth letter, and the kelvin sign one of the eleventh. -/
def letterMarks (s : CharSet) : Nat :=
  ((s.marks >>> 65) ||| (s.marks >>> 97)) % Nat.pow 2 26
    ||| (bitAt s.marks 128 <<< 18) ||| (bitAt s.marks 129 <<< 10)

/-- A set with the other cases of its letters. -/
def folded (s : CharSet) : CharSet :=
  let l := s.letterMarks
  { s with
    marks := s.marks ||| (l <<< 65) ||| (l <<< 97)
      ||| (bitAt l 18 <<< 128) ||| (bitAt l 10 <<< 129) }

/-! ### Room -/

/-- The marks of the characters of ASCII. -/
def asciiMarks (s : CharSet) : Nat :=
  s.marks % Nat.pow 2 128

/-- How many bits of a number are set, if they are `n` at most. -/
def bitCount : Nat → Nat → Nat
  | 0, _ => 0
  | n + 1, bits => if bits = 0 then 0 else bitCount n (bits &&& (bits - 1)) + 1

/-- How many ranges the ASCII characters of a set are : a range begins where the mark below is
not set. -/
def rangeCount (s : CharSet) : Nat :=
  let marks := s.asciiMarks
  bitCount 128 (marks &&& (marks ^^^ (marks <<< 1)))

/-- The room a set takes in a machine, in bytes : a state for a single character, and a state
with a way out for each range otherwise. -/
def room (s : CharSet) : Nat :=
  let marks := s.asciiMarks
  if s.wide = 0 ∧ marks &&& (marks - 1) = 0 then 32
  else if s.wide = 0 then 64 + 8 * s.rangeCount
  else if marks = 0 ∧ s.wide < 200 then s.wide
  else 64 + 8 * s.rangeCount + s.wide

/-! ### Sets with a name -/

def digits : CharSet := range '0' '9'
def small : CharSet := range 'a' 'z'
def capital : CharSet := range 'A' 'Z'
def letters : CharSet := small.union capital
def punctuation : CharSet :=
  unions [range '!' '/', range ':' '@', range '[' '\x60', range '\x7b' '~']
def spaces : CharSet := (range '\t' '\x0d').union (single ' ')
def words : CharSet := unions [letters, digits, single '_']
def hexDigits : CharSet := unions [digits, range 'a' 'f', range 'A' 'F']
def ascii : CharSet := range '\x00' '\x7f'
def controls : CharSet := (range '\x00' '\x1f').union (single '\x7f')

/-- All characters. -/
def all : CharSet := ⟨allMarks, 900⟩

/-- The characters of a word, beyond ASCII too. -/
def wideWords : CharSet :=
  { words.union ((single longS).union (single kelvin)) with wide := 49700 }

/-- The decimal digits of all scripts. -/
def wideDigits : CharSet := { digits with wide := 5100 }

/-- The blank characters. -/
def wideSpaces : CharSet := { spaces with wide := 600 }

/-- The sets of ASCII characters that a class calls by a name between colons. -/
def named? : String → Option CharSet
  | "alnum" => some (letters.union digits)
  | "alpha" => some letters
  | "ascii" => some ascii
  | "blank" => some (ofString "\t ")
  | "cntrl" => some controls
  | "digit" => some digits
  | "graph" => some (range '!' '~')
  | "lower" => some small
  | "print" => some (range ' ' '~')
  | "punct" => some punctuation
  | "space" => some spaces
  | "upper" => some capital
  | "word" => some words
  | "xdigit" => some hexDigits
  | _ => Option.none

end CharSet

end Courier.Pattern
