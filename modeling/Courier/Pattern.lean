import Courier.Pattern.CharSet

/-!
# Patterns

A pattern is a regular expression that is searched for anywhere in a text. Its meaning is
a relation of positions : `Track.reach` gives, for a set of positions of the text, all
positions at which a match that begins at one of them may end. A set of positions is a
number with a bit for each of them, so the work grows with the text and the expression, and
not with the number of ways to match. A pattern is found in a text if the positions of the
text reach any.
-/

namespace Courier

/-- A place in a text. -/
inductive Pattern.Place where
  | textStart
  | textEnd
  | lineStart
  | lineEnd
  /-- As `lineStart`, where a carriage return ends a line too. -/
  | lineStartReturn
  | lineEndReturn
  | wordBoundary
  | noWordBoundary
  | wordStart
  | wordEnd
  | noWordBefore
  | noWordAfter
  deriving Repr, DecidableEq

/-- A regular expression. -/
inductive Pattern.Expr where
  | empty
  | one (set : Pattern.CharSet)
  | at (place : Pattern.Place)
  | sequence (a b : Pattern.Expr)
  | choice (a b : Pattern.Expr)
  /-- `a`, `least` times and up to `spare` times more, or any number of times more. -/
  | repeated (a : Pattern.Expr) (least : Nat) (spare : Option Nat)
  deriving Repr, Inhabited

/-- A regular expression with the text that writes it. -/
structure Pattern where
  text : String
  expr : Pattern.Expr
  deriving Repr, Inhabited

namespace Pattern

/-- A character of a word. -/
def isWordChar (c : Char) : Bool :=
  Ascii.isLetter c ∨ Ascii.isDigit c ∨ c = '_'

/-- Whether the position between two characters is at a place. There is no character before the
text and none after it. -/
def Place.holds (before after : Option Char) : Place → Bool
  | .textStart => before.isNone
  | .textEnd => after.isNone
  | .lineStart => before.isNone || before = some '\n'
  | .lineEnd => after.isNone || after = some '\n'
  | .lineStartReturn =>
    before.isNone || before = some '\n' || (before = some '\x0d' && after ≠ some '\n')
  | .lineEndReturn =>
    after.isNone || after = some '\x0d' || (after = some '\n' && before ≠ some '\x0d')
  | .wordBoundary => before.any isWordChar != after.any isWordChar
  | .noWordBoundary => before.any isWordChar == after.any isWordChar
  | .wordStart => !before.any isWordChar && after.any isWordChar
  | .wordEnd => before.any isWordChar && !after.any isWordChar
  | .noWordBefore => !before.any isWordChar
  | .noWordAfter => !after.any isWordChar

/-! ### Positions -/

/-- The positions of a text for which a property of the characters around them holds, given the
character before the text. -/
def positions (p : Option Char → Option Char → Bool) : Option Char → List Char → Nat
  | before, [] => if p before none then 1 else 0
  | before, c :: rest =>
    2 * positions p (some c) rest + if p before (some c) then 1 else 0

/-- An expression in a text : each set became the positions of its characters, and each place the
positions that are at it. -/
inductive Track where
  | empty
  | step (before : Nat)
  | stay (here : Nat)
  | sequence (a b : Track)
  | choice (a b : Track)
  | repeated (a : Track) (least spare : Nat)
  deriving Repr, Inhabited

/-- The expression in a text. A repetition that goes on for as many times as there are positions
reaches nothing new, nor does it lose anything. -/
def Expr.track (text : List Char) : Expr → Track
  | .empty => .empty
  | .one set => .step (positions (fun _ after => after.any set.contains) none text)
  | .at place => .stay (positions (fun before after => place.holds before after) none text)
  | .sequence a b => .sequence (a.track text) (b.track text)
  | .choice a b => .choice (a.track text) (b.track text)
  | .repeated a least spare =>
    let limit := text.length + 2
    .repeated (a.track text) (min least limit) (min (spare.getD limit) limit)

/-- The positions exactly `n` steps away. -/
def exactly (step : Nat → Nat) : Nat → Nat → Nat
  | 0, start => start
  | n + 1, start =>
    let next := step start
    if next = start then start else exactly step n next

/-- The positions at most `n` steps away. -/
def atMost (step : Nat → Nat) : Nat → Nat → Nat
  | 0, start => start
  | n + 1, start =>
    let next := start ||| step start
    if next = start then start else atMost step n next

/-- Where a match may end that begins at one of several positions. -/
def Track.reach : Track → Nat → Nat
  | .empty, s => s
  | .step before, s => 2 * (s &&& before)
  | .stay here, s => s &&& here
  | .sequence a b, s => b.reach (a.reach s)
  | .choice a b, s => a.reach s ||| b.reach s
  | .repeated a least spare, s => atMost a.reach spare (exactly a.reach least s)

/-- Whether a pattern is found in a text. -/
def isIn (p : Pattern) (text : String) : Bool :=
  let cs := text.toList
  (p.expr.track cs).reach (Nat.pow 2 (cs.length + 1) - 1) ≠ 0

end Pattern

end Courier
