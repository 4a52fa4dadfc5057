import Courier.Pattern
import Courier.Pattern.Property
import Courier.Text.Blank
import Courier.Text.Letter
import Courier.Text.Natural
import Courier.Text.Quoted

/-!
# Reading patterns

The usual notation of regular expressions : literals, a dot, classes between brackets with
the operations of sets, anchors, groups, alternatives and repetitions, with flags for
letter case, lines, dots, and for blanks and comments in the pattern itself. There are no
references back and no look around. A text is no pattern either if it is nested too deep,
if it needs too much room, or if it could match a part of a character. `Pattern.parse?`
gives nothing for a text that is no pattern.
-/

namespace Courier.Pattern

/-- What flags say about the rest of a group. -/
structure Flags where
  anyCase : Bool := false
  /-- Anchors look at lines. -/
  lines : Bool := false
  /-- A dot takes the end of a line. -/
  dotAll : Bool := false
  /-- A carriage return ends a line. -/
  returns : Bool := false
  /-- Characters are those of Unicode, and not bytes. -/
  unicode : Bool := true
  /-- Blanks and comments in the pattern mean nothing. -/
  verbose : Bool := false
  deriving Repr, DecidableEq

/-! ### Blanks and comments -/

/-- Characters after the blanks and comments at their front. A comment goes on to the end of its
line. -/
def afterComments : Bool → List Char → List Char
  | _, [] => []
  | true, c :: rest => afterComments (c ≠ '\n') rest
  | false, c :: rest =>
    if Text.isBlank c then afterComments false rest
    else if c = '#' then afterComments true rest
    else c :: rest

/-- Characters after what the flags let mean nothing. -/
def Flags.skip (flags : Flags) (cs : List Char) : List Char :=
  if flags.verbose then afterComments false cs else cs

/-- The characters at the front that satisfy a predicate, with anything that means nothing left
out, and what follows. The mark says whether a comment is open. -/
def gather (flags : Flags) (p : Char → Bool) : Bool → List Char → List Char × List Char
  | _, [] => ([], [])
  | true, c :: rest => gather flags p (c ≠ '\n') rest
  | false, c :: rest =>
    if flags.verbose && Text.isBlank c then gather flags p false rest
    else if flags.verbose && c = '#' then gather flags p true rest
    else if p c then
      let (taken, more) := gather flags p false rest
      (c :: taken, more)
    else ([], c :: rest)

/-- The first `n` characters, if they all satisfy a predicate, with anything that means nothing
left out after each, and what follows. -/
def gather? (flags : Flags) (p : Char → Bool) : Nat → List Char → Option (List Char × List Char)
  | 0, cs => some ([], cs)
  | n + 1, c :: rest =>
    if p c then (gather? flags p n (flags.skip rest)).map fun (taken, more) => (c :: taken, more)
    else none
  | _, [] => none

/-! ### Escapes -/

/-- What stands after a backslash. -/
inductive Escape where
  /-- A character, which two hexadecimal digits may write as if it were a byte. -/
  | literal (c : Char) (isByte : Bool)
  | set (s : CharSet)
  | at (place : Place)
  deriving Repr

/-- The character of hexadecimal digits. -/
def codePoint? (ds : List Char) : Option Char :=
  if ds = [] then none
  else
    (ds.foldlM (fun n d => (Ascii.hexValue? d).map fun v => n * 16 + v) 0).bind fun n =>
      if n.isValidChar then some (Char.ofNat n) else none

/-- A character written by `width` digits, or by any number of them between braces. -/
def hexEscape? (flags : Flags) (width : Nat) (cs : List Char) : Option (Char × Bool × List Char) :=
  let isHex (c : Char) : Bool := (Ascii.hexValue? c).isSome
  match flags.skip cs with
  | '\x7b' :: rest =>
    match gather flags isHex false rest with
    | (ds, '\x7d' :: more) => (codePoint? ds).map (·, false, flags.skip more)
    | _ => none
  | cs =>
    (gather? flags isHex width cs).bind fun (ds, more) =>
      (codePoint? ds).map (·, width = 2, more)

/-- The set of a property : a letter, or a text between braces. -/
def property? (flags : Flags) (cs : List Char) : Option (CharSet × List Char) :=
  match flags.skip cs with
  | '\x7b' :: rest =>
    match gather flags (· ≠ '\x7d') false rest with
    | (name, _ :: more) => (Property.braced? name).map (·, more)
    | _ => none
  | c :: rest => if c = '\\' then none else (Property.named? [c]).map (·, flags.skip rest)
  | [] => none

/-- A set or, if it is negated, its complement. Among bytes there is none. -/
def Flags.negate? (flags : Flags) (negated : Bool) (s : CharSet) : Option CharSet :=
  if !negated then some s else if flags.unicode then some s.complement else none

/-- A set with the other cases of its letters, if case does not matter. -/
def Flags.fold (flags : Flags) (s : CharSet) : CharSet :=
  if flags.anyCase then s.folded else s

/-- The place between braces after `\b`. Braces that begin otherwise are left for a repetition. -/
def boundary? (flags : Flags) (cs : List Char) : Option (Place × List Char) :=
  let isNameChar (c : Char) : Bool := Ascii.isLetter c ∨ c = '-'
  match cs with
  | '\x7b' :: rest =>
    match flags.skip rest with
    | [] => none
    | c :: more =>
      if !isNameChar c then some (.wordBoundary, cs)
      else
        match gather flags isNameChar false (c :: more) with
        | (name, '\x7d' :: more) =>
          match String.ofList name with
          | "start" => some (.wordStart, more)
          | "end" => some (.wordEnd, more)
          | "start-half" => some (.noWordBefore, more)
          | "end-half" => some (.noWordAfter, more)
          | _ => none
        | _ => none
  | cs => some (.wordBoundary, cs)

/-- A class of characters with a letter for a name. -/
def letterClass (flags : Flags) (wide narrow : CharSet) : CharSet :=
  if flags.unicode then wide else narrow

/-- Read what stands after a backslash. -/
def escape? (flags : Flags) (cs : List Char) : Option (Escape × List Char) :=
  let hex (width : Nat) (rest : List Char) : Option (Escape × List Char) :=
    (hexEscape? flags width rest).map fun (c, isByte, more) => (.literal c isByte, more)
  let set (negated : Bool) (s : CharSet) (rest : List Char) : Option (Escape × List Char) :=
    (flags.negate? negated s).map fun s => (.set s, rest)
  let property (negated : Bool) (rest : List Char) : Option (Escape × List Char) :=
    if !flags.unicode then none
    else (property? flags rest).bind fun (s, more) => set negated (flags.fold s) more
  let digits := letterClass flags .wideDigits .digits
  let words := letterClass flags .wideWords .words
  let spaces := letterClass flags .wideSpaces .spaces
  match cs with
  | [] => none
  | 'd' :: rest => set false digits rest
  | 'D' :: rest => set true digits rest
  | 'w' :: rest => set false words rest
  | 'W' :: rest => set true words rest
  | 's' :: rest => set false spaces rest
  | 'S' :: rest => set true spaces rest
  | 'p' :: rest => property false rest
  | 'P' :: rest => property true rest
  | 'b' :: rest => (boundary? flags rest).map fun (place, more) => (.at place, more)
  | 'B' :: rest => some (.at .noWordBoundary, rest)
  | '<' :: rest => some (.at .wordStart, rest)
  | '>' :: rest => some (.at .wordEnd, rest)
  | 'A' :: rest => some (.at .textStart, rest)
  | 'z' :: rest => some (.at .textEnd, rest)
  | 'a' :: rest => some (.literal '\x07' false, rest)
  | 'f' :: rest => some (.literal '\x0c' false, rest)
  | 't' :: rest => some (.literal '\t' false, rest)
  | 'n' :: rest => some (.literal '\n' false, rest)
  | 'r' :: rest => some (.literal '\x0d' false, rest)
  | 'v' :: rest => some (.literal '\x0b' false, rest)
  | 'x' :: rest => hex 2 rest
  | 'u' :: rest => hex 4 rest
  | 'U' :: rest => hex 8 rest
  | c :: rest =>
    if c ≤ '\x7f' ∧ !Ascii.isLetter c ∧ !Ascii.isDigit c then some (.literal c false, rest)
    else none

/-! ### Classes -/

/-- A part of a class with the depth of its nesting. -/
structure Part where
  set : CharSet
  depth : Nat := 0
  deriving Repr, Inhabited

/-- The depth of something that holds others : one alone stands for itself. -/
def nested (depths : List Nat) : Nat :=
  match depths with
  | [] => 0
  | [d] => d
  | ds => ds.foldl max 0 + 1

/-- The union of parts. -/
def Part.unions (parts : List Part) : Part :=
  { set := .unions (parts.map Part.set), depth := nested (parts.map Part.depth) }

/-- An operation on sets. -/
inductive Operation where
  | inter
  | difference
  | symmetricDifference
  deriving Repr, DecidableEq

/-- The set that an operation makes of two. -/
def Operation.apply : Operation → CharSet → CharSet → CharSet
  | .inter => .inter
  | .difference => .difference
  | .symmetricDifference => .symmetricDifference

/-- A class that is being read : the operation that waits for its right side, and the parts of
that side so far. -/
structure Bracket where
  negated : Bool
  waiting : Option (Operation × Part) := none
  parts : List Part := []
  deriving Repr, Inhabited

namespace Bracket

/-- The class with one more part. -/
def add (b : Bracket) (p : Part) : Bracket :=
  { b with parts := p :: b.parts }

/-- What the class holds so far. Operations are done from left to right. -/
def content (flags : Flags) (b : Bracket) : Part :=
  let right := Part.unions b.parts
  match b.waiting with
  | none => right
  | some (op, left) =>
    { set := op.apply (flags.fold left.set) (flags.fold right.set)
      depth := max left.depth right.depth + 1 }

/-- The class as a part of the class around it. -/
def part? (flags : Flags) (b : Bracket) : Option Part :=
  let content := b.content flags
  (flags.negate? b.negated (flags.fold content.set)).map fun set =>
    { set, depth := content.depth + 1 }

end Bracket

/-- Read an item of a class that is no class itself. -/
def item? (flags : Flags) : List Char → Option (Escape × List Char)
  | [] => none
  | '\\' :: rest => escape? flags rest
  | c :: rest => some (.literal c false, rest)

/-- A character of a class. Among bytes it has to be one. -/
def Flags.member? (flags : Flags) : Escape → Option Char
  | .literal c _ => if flags.unicode ∨ c ≤ '\x7f' then some c else none
  | _ => none

/-- The character after the next one, where blanks may mean nothing. A comment hides its first
character only if that is blank. -/
def peek? (flags : Flags) (rest : List Char) : Option Char :=
  if !flags.verbose then rest.head?
  else
    match rest.dropWhile Text.isBlank with
    | '#' :: more =>
      match more.dropWhile Text.isBlank with
      | c :: _ => some c
      | [] => rest.head?
    | c :: _ => some c
    | [] => rest.head?

/-- Read an item, or a range between two characters. -/
def range? (flags : Flags) (cs : List Char) : Option (Part × List Char) :=
  (item? flags cs).bind fun (first, rest) =>
    let alone : Option (Part × List Char) :=
      match first with
      | .set s => some ({ set := s }, rest)
      | first => (flags.member? first).map fun c => ({ set := .single c }, rest)
    match flags.skip rest with
    | '-' :: more =>
      let next := peek? flags more
      if next = some ']' ∨ next = some '-' then alone
      else
        (item? flags (flags.skip more)).bind fun (last, rest) =>
          match flags.member? first, flags.member? last with
          | some a, some b => if a ≤ b then some ({ set := .range a b }, rest) else none
          | _, _ => none
    | _ => alone

/-- Read a name between colons and brackets, after the opening bracket. -/
def namedClass? (flags : Flags) : List Char → Option (Option CharSet × List Char)
  | ':' :: rest =>
    let (negated, body) := match rest with
      | '^' :: body => (true, body)
      | body => (false, body)
    match CharSet.named? (String.ofList (body.takeWhile (· ≠ ':'))), body.dropWhile (· ≠ ':') with
    | some s, ':' :: ']' :: more => some (flags.negate? negated (flags.fold s), more)
    | _, _ => none
  | _ => none

/-- Open a class after its bracket. Dashes at its front are items, and a closing bracket is one if
it is the first. -/
def openBracket? (flags : Flags) (cs : List Char) : Option (Bracket × List Char) :=
  let (negated, body) := match flags.skip cs with
    | '^' :: body => (true, flags.skip body)
    | body => (false, body)
  let (dashes, body) := gather flags (· = '-') false body
  let literal (c : Char) : Part := { set := .single c }
  let bracket : Bracket := { negated, parts := dashes.map literal }
  match dashes, body with
  | _, [] => none
  | [], ']' :: more =>
    let rest := flags.skip more
    if rest = [] then none else some (bracket.add (literal ']'), rest)
  | _, body => some (bracket, body)

/-- Read the rest of a class inside the classes around it. -/
def class? (flags : Flags) : Nat → Bracket → List Bracket → List Char → Option (Part × List Char)
  | 0, _, _, _ => none
  | fuel + 1, bracket, outer, cs =>
    let operate (op : Operation) (rest : List Char) : Option (Part × List Char) :=
      class? flags fuel
        { bracket with waiting := some (op, bracket.content flags), parts := [] } outer rest
    match flags.skip cs with
    | [] => none
    | '[' :: rest =>
      match namedClass? flags rest with
      | some (some s, more) => class? flags fuel (bracket.add { set := s }) outer more
      | some (none, _) => none
      | none =>
        (openBracket? flags rest).bind fun (inner, more) =>
          class? flags fuel inner (bracket :: outer) more
    | ']' :: rest =>
      (bracket.part? flags).bind fun part =>
        match outer with
        | [] => some (part, rest)
        | up :: outer => class? flags fuel (up.add part) outer rest
    | '&' :: '&' :: rest => operate .inter rest
    | '-' :: '-' :: rest => operate .difference rest
    | '~' :: '~' :: rest => operate .symmetricDifference rest
    | cs =>
      (range? flags cs).bind fun (part, rest) => class? flags fuel (bracket.add part) outer rest

/-! ### Repetition -/

/-- Read a number with blanks around it. -/
def number? (flags : Flags) (cs : List Char) : Option (Nat × List Char) :=
  let (ds, rest) := gather flags Ascii.isDigit false (cs.dropWhile Text.isBlank)
  let rest := flags.skip (rest.dropWhile Text.isBlank)
  let n := Natural.ofDigits ds
  if ds = [] ∨ n ≥ Natural.bound32 then none else some (n, rest)

/-- Read the bounds of a repetition after its opening brace. -/
def bounds? (flags : Flags) (cs : List Char) : Option (Nat × Option Nat × List Char) :=
  match number? flags (flags.skip cs) with
  | some (least, '\x7d' :: rest) => some (least, some 0, flags.skip rest)
  | some (least, ',' :: rest) =>
    match flags.skip rest with
    | '\x7d' :: rest => some (least, none, flags.skip rest)
    | rest =>
      match number? flags rest with
      | some (most, '\x7d' :: rest) =>
        if least ≤ most then some (least, some (most - least), flags.skip rest) else none
      | _ => none
  | _ => none

/-- What a repetition sign does, if the next character is one. -/
def repetition? (flags : Flags) : List Char → Option (Option (Nat × Option Nat × List Char))
  | '*' :: rest => some (some (0, none, rest))
  | '+' :: rest => some (some (1, none, rest))
  | '?' :: rest => some (some (0, some 1, rest))
  | '\x7b' :: rest => some (bounds? flags rest)
  | _ => none

/-! ### Expressions -/

/-- An expression whose matches are all empty. -/
def Expr.isThin : Expr → Bool
  | .empty => true
  | .one _ => false
  | .at _ => true
  | .sequence a b => a.isThin && b.isThin
  | .choice a b => a.isThin && b.isThin
  | .repeated a least spare => a.isThin || (least = 0 && spare = some 0)

/-- An expression that may have an empty match. -/
def Expr.isLoose : Expr → Bool
  | .empty => true
  | .one _ => false
  | .at _ => true
  | .sequence a b => a.isLoose && b.isLoose
  | .choice a b => a.isLoose || b.isLoose
  | .repeated a least _ => least = 0 || a.isLoose

/-- A piece of a pattern : its expression, the depth of its nesting, and the room it takes in a
machine, in bytes. Flags are a piece that cannot be repeated. -/
structure Piece where
  expr : Expr := .empty
  depth : Nat := 0
  room : Nat := 0
  isSetting : Bool := false
  deriving Repr, Inhabited

namespace Piece

/-- A set. -/
def ofSet (s : CharSet) (depth : Nat) : Piece :=
  { expr := .one s, depth, room := s.room }

/-- A place. -/
def ofPlace (place : Place) : Piece :=
  { expr := .at place, room := 32 }

/-- Pieces one after the other, given the last one first. -/
def sequence (pieces : List Piece) : Piece :=
  { expr := pieces.foldl (fun rest p => .sequence p.expr rest) .empty
    depth := nested (pieces.map Piece.depth)
    room := pieces.foldl (fun total p => total + p.room) 0 }

/-- The choice between pieces, given the last one first. -/
def choice : List Piece → Piece
  | [] => {}
  | [p] => p
  | p :: ps =>
    { expr := ps.foldl (fun rest q => .choice q.expr rest) p.expr
      depth := nested ((p :: ps).map Piece.depth)
      room := (p :: ps).foldl (fun total q => total + max 32 q.room + 4) 64 }

/-- A group, which may keep what it matched. -/
def grouped (keeps : Bool) (p : Piece) : Piece :=
  { p with
    depth := p.depth + 1
    room := if keeps then max 32 p.room + 64 else p.room
    isSetting := false }

/-- The room that a repetition takes. Each time takes room of its own, and so does each way to go
on or leave. What has empty matches only is not repeated. -/
def repeatedRoom (p : Piece) (least : Nat) (spare : Option Nat) : Nat :=
  let room := max 32 p.room
  let n := if p.expr.isThin then min least 1 else least
  let more := if p.expr.isThin then some (min ((spare.map (least + ·)).getD 1) 1 - n) else spare
  match n, more with
  | 0, some 0 => 0
  | 1, some 0 => p.room
  | 0, some 1 => room + 72
  | 0, none => if p.expr.isLoose then room + 112 else room + 40
  | n, none => n * room + 40
  | n, some 0 => n * room
  | n, some more => max 32 (n * room) + 32 + more * (room + 40)

/-- A repetition. -/
def repeated (p : Piece) (least : Nat) (spare : Option Nat) : Piece :=
  { expr := .repeated p.expr least spare
    depth := p.depth + 1
    room := p.repeatedRoom least spare }

end Piece

/-- A group that is being read : the alternatives before the last bar and the pieces after it, the
last ones first. -/
structure Frame where
  alternatives : List Piece := []
  pieces : List Piece := []
  flags : Flags
  /-- The group keeps what it matched. -/
  keeps : Bool := false

/-- The group as one piece, without its parentheses. -/
def Frame.body (f : Frame) : Piece :=
  .choice (.sequence f.pieces :: f.alternatives)

/-- The group with one more piece. -/
def Frame.add (f : Frame) (p : Piece) : Frame :=
  { f with pieces := p :: f.pieces }

/-! ### Groups -/

/-- The flags with the one of a letter set or unset. -/
def Flags.set? (flags : Flags) (on : Bool) : Char → Option Flags
  | 'i' => some { flags with anyCase := on }
  | 'm' => some { flags with lines := on }
  | 's' => some { flags with dotAll := on }
  | 'R' => some { flags with returns := on }
  | 'u' => some { flags with unicode := on }
  | 'x' => some { flags with verbose := on }
  | 'U' => some flags
  | _ => none

/-- The flags that letters set or, after a hyphen, unset. -/
def Flags.amend? (on : Bool) (flags : Flags) : List Char → Option Flags
  | [] => some flags
  | '-' :: rest => amend? false flags rest
  | c :: rest => (flags.set? on c).bind fun flags => amend? on flags rest

/-- The flags that letters say. No letter stands twice, and the hyphen does not stand last. -/
def flags? (flags : Flags) (letters : List Char) : Option Flags :=
  if !letters.Nodup ∨ letters.getLast? = some '-' then none else Flags.amend? true flags letters

/-- What follows an opening parenthesis : a group with its flags and perhaps a name, or flags for
the rest of the present group. -/
inductive Opening where
  | group (flags : Flags) (keeps : Bool) (name : Option (List Char))
  | setting (flags : Flags)
  deriving Repr

/-- A name of a group. -/
def isGroupName : List Char → Bool
  | [] => false
  | c :: rest =>
    let isLetter (c : Char) : Bool := Ascii.isLetter c ∨ c = '_' ∨ Text.isForeignLetter c
    isLetter c ∧ rest.all fun c =>
      isLetter c ∨ Ascii.isDigit c ∨ Text.isForeignNumber c ∨ c = '.' ∨ c = '[' ∨ c = ']'

/-- Read what follows an opening parenthesis. -/
def opening? (flags : Flags) (cs : List Char) : Option (Opening × List Char) :=
  let named (rest : List Char) : Option (Opening × List Char) :=
    let name := rest.takeWhile (· ≠ '>')
    match rest.dropWhile (· ≠ '>') with
    | _ :: more => if isGroupName name then some (.group flags true (some name), more) else none
    | [] => none
  match flags.skip cs with
  | '?' :: 'P' :: '<' :: rest => named rest
  | '?' :: '<' :: rest => named rest
  | '?' :: rest =>
    let isEnd (c : Char) : Bool := c = ':' ∨ c = ')'
    let letters := rest.takeWhile fun c => !isEnd c
    match rest.dropWhile fun c => !isEnd c with
    | ':' :: more => (flags? flags letters).map fun flags => (.group flags false none, more)
    | _ :: more =>
      if letters = [] then none else (flags? flags letters).map fun flags => (.setting flags, more)
    | [] => none
  | rest => some (.group flags true none, rest)

/-! ### Whole patterns -/

/-- The characters that a dot takes. Among bytes there is no dot. -/
def Flags.dot? (flags : Flags) : Option CharSet :=
  if !flags.unicode then none
  else if flags.dotAll then some .all
  else some (CharSet.complement (.ofString (if flags.returns then "\n\x0d" else "\n")))

/-- A literal. Among bytes only letters of ASCII have another case, and none is a byte that is no
character. -/
def Flags.literal? (flags : Flags) (c : Char) (isByte : Bool) : Option CharSet :=
  if flags.unicode ∨ c ≤ '\x7f' then some (flags.fold (.single c))
  else if isByte then none
  else some (.single c)

/-- Read one piece that is no group. A class takes no more steps than there is fuel. -/
def atom? (flags : Flags) (fuel : Nat) : List Char → Option (Piece × List Char)
  | [] => none
  | '.' :: rest => flags.dot?.map fun s => (.ofSet s 0, rest)
  | '^' :: rest =>
    some (.ofPlace (if !flags.lines then .textStart
      else if flags.returns then .lineStartReturn else .lineStart), rest)
  | '$' :: rest =>
    some (.ofPlace (if !flags.lines then .textEnd
      else if flags.returns then .lineEndReturn else .lineEnd), rest)
  | '[' :: rest =>
    (openBracket? flags rest).bind fun (bracket, more) =>
      (class? flags fuel bracket [] more).map fun (part, more) =>
        (.ofSet part.set part.depth, more)
  | '\\' :: rest =>
    (escape? flags rest).bind fun (e, more) =>
      match e with
      | .literal c isByte => (flags.literal? c isByte).map fun s => (.ofSet s 0, more)
      | .set s => some (.ofSet s 0, more)
      | .at place => some (.ofPlace place, more)
  | c :: rest => (flags.literal? c false).map fun s => (.ofSet s 0, rest)

/-- Read characters inside a group and the groups around it, given the names of groups so far.
Each step reads one character at least. -/
def read? : Nat → Frame → List Frame → List (List Char) → List Char → Option Piece
  | 0, _, _, _, _ => none
  | fuel + 1, frame, outer, names, cs =>
    match frame.flags.skip cs with
    | [] => if outer.isEmpty then some frame.body else none
    | '(' :: rest =>
      match opening? frame.flags rest with
      | none => none
      | some (.group flags keeps none, more) =>
        read? fuel { flags, keeps } (frame :: outer) names more
      | some (.group flags keeps (some name), more) =>
        if name ∈ names then none
        else read? fuel { flags, keeps } (frame :: outer) (name :: names) more
      | some (.setting flags, more) =>
        read? fuel { frame.add { isSetting := true } with flags } outer names more
    | ')' :: rest =>
      match outer with
      | [] => none
      | up :: outer => read? fuel (up.add (frame.body.grouped frame.keeps)) outer names rest
    | '|' :: rest =>
      let alternatives := Piece.sequence frame.pieces :: frame.alternatives
      read? fuel { frame with alternatives, pieces := [] } outer names rest
    | cs =>
      match repetition? frame.flags cs, frame.pieces with
      | some none, _ => none
      | some (some _), [] => none
      | some (some (least, spare, more)), p :: pieces =>
        if p.isSetting then none
        else
          let more := match more with
            | '?' :: more => more
            | more => more
          read? fuel { frame with pieces := p.repeated least spare :: pieces } outer names more
      | none, _ =>
        (atom? frame.flags fuel cs).bind fun (p, more) => read? fuel (frame.add p) outer names more

/-- How deep a pattern may be nested. -/
def maxDepth : Nat := 250

/-- The room a machine may take, in bytes. -/
def maxRoom : Nat := 10485760

/-- The room a machine takes besides its pattern. -/
def frameRoom : Nat := 208

/-- The pattern that a text writes. -/
def parse? (text : String) : Option Pattern :=
  (read? (text.length + 1) { flags := {} } [] [] text.toList).bind fun p =>
    if p.depth ≤ maxDepth ∧ p.room + frameRoom ≤ maxRoom then some { text, expr := p.expr }
    else none

/-- A pattern for diagnostics. -/
def describe (p : Pattern) : String :=
  Text.wrapped "Regex" (Text.quoted p.text)

end Courier.Pattern
