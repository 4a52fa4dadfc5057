/-!
# UTF-8

A byte sequence is read by a machine that consumes one byte at a time
(`Utf8.Reader.push`). Between characters it waits for a first byte ; inside one it
owes a number of continuation bytes, the next of which must lie in a range that
rules out overlong forms and surrogates. Bytes that cannot start or continue a
character form an ill-formed run of one to three bytes, and the byte that broke a
run is read again as a first byte.

`Utf8.symbols` keeps a place for every ill-formed run, `Utf8.lossy` writes one U+FFFD
for it, `Utf8.decode` fails at the first one and says where it is and how wide, and
`Utf8.encode` is the inverse of all three on text.
-/

namespace Courier

/-- The contents of a body, a header value or any other octet sequence. -/
abbrev Bytes := List UInt8

namespace Utf8

/-- The bytes of a text. -/
def encode (s : String) : Bytes :=
  s.toList.flatMap String.utf8EncodeChar

/-- What a first byte announces. -/
inductive Lead where
  /-- A character of one byte. -/
  | single
  /-- `owed` continuation bytes, the first of them between `low` and `high`; `bits` are
  the leading bits of the code point. -/
  | multi (owed : Nat) (low high : UInt8) (bits : Nat)
  /-- No character starts with this byte. -/
  | never
  deriving Repr, DecidableEq

/-- The table of first bytes. -/
def lead (b : UInt8) : Lead :=
  if b < 0x80 then .single
  else if b < 0xC2 then .never
  else if b < 0xE0 then .multi 1 0x80 0xBF (b.toNat - 0xC0)
  else if b = 0xE0 then .multi 2 0xA0 0xBF 0
  else if b = 0xED then .multi 2 0x80 0x9F 0xD
  else if b < 0xF0 then .multi 2 0x80 0xBF (b.toNat - 0xE0)
  else if b = 0xF0 then .multi 3 0x90 0xBF 0
  else if b < 0xF4 then .multi 3 0x80 0xBF (b.toNat - 0xF0)
  else if b = 0xF4 then .multi 3 0x80 0x8F 4
  else .never

/-- Where a reader stands between two bytes. -/
inductive State where
  /-- Between characters. -/
  | start
  /-- Inside a character that owes `owed + 1` bytes, the next between `low` and `high`;
  `width` bytes of it are read and `bits` are the code point's bits so far. -/
  | inside (owed : Nat) (low high : UInt8) (bits width : Nat)
  deriving Repr, DecidableEq

/-- A reader that turns characters into items by `char` and ill-formed runs into items by
`broken`, newest item first. -/
structure Reader (α : Type) where
  items : List α := []
  state : State := .start

variable {α : Type}

/-- Read a byte between characters. -/
def Reader.first (char : Char → α) (broken : Nat → α) (items : List α) (b : UInt8) : Reader α :=
  match lead b with
  | .single => { items := char (Char.ofNat b.toNat) :: items }
  | .multi owed low high bits => { items, state := .inside (owed - 1) low high bits 1 }
  | .never => { items := broken 1 :: items }

/-- Read one byte. -/
def Reader.push (char : Char → α) (broken : Nat → α) (r : Reader α) (b : UInt8) : Reader α :=
  match r.state with
  | .start => Reader.first char broken r.items b
  | .inside owed low high bits width =>
    if low ≤ b ∧ b ≤ high then
      let bits := bits * 64 + (b.toNat - 0x80)
      match owed with
      | 0 => { items := char (Char.ofNat bits) :: r.items }
      | owed + 1 => { r with state := .inside owed 0x80 0xBF bits (width + 1) }
    else Reader.first char broken (broken width :: r.items) b

/-- The reader after all of `bytes`. -/
def read (char : Char → α) (broken : Nat → α) (bytes : Bytes) : Reader α :=
  bytes.foldl (Reader.push char broken) {}

/-- A character, or nothing for an ill-formed run that stands in its place. -/
abbrev Symbol := Option Char

/-- The characters and ill-formed runs of `bytes`. -/
def symbols (bytes : Bytes) : List Symbol :=
  let r := read some (fun _ => none) bytes
  match r.state with
  | .start => r.items.reverse
  | .inside .. => r.items.reverse ++ [none]

/-- U+FFFD, written for an ill-formed run. -/
def replacement : Char := '\uFFFD'

/-- The text of `bytes`, with one replacement character for every ill-formed run. -/
def lossy (bytes : Bytes) : String :=
  let r := read id (fun _ => replacement) bytes
  let items := match r.state with
    | .start => r.items
    | .inside .. => replacement :: r.items
  String.ofList items.reverse

/-- Why bytes are not UTF-8. -/
inductive Fault where
  /-- `width` bytes at `index` belong to no character. -/
  | invalid (width index : Nat)
  /-- The bytes end inside the character that starts at `index`. -/
  | incomplete (index : Nat)
  deriving Repr, DecidableEq

/-- The wording of a fault. -/
def Fault.message : Fault → String
  | .invalid width index => s!"invalid utf-8 sequence of {width} bytes from index {index}"
  | .incomplete index => s!"incomplete utf-8 byte sequence from index {index}"

/-- Look for the first ill-formed run among items in reading order. -/
def settle (incomplete : Bool) : List (Except Nat Char) → Nat → List Char → Except Fault (List Char)
  | [], index, read => if incomplete then .error (.incomplete index) else .ok read.reverse
  | .ok c :: rest, index, read => settle incomplete rest (index + c.utf8Size) (c :: read)
  | .error width :: _, index, _ => .error (.invalid width index)

/-- The text of `bytes`, or the first fault in it. -/
def decode (bytes : Bytes) : Except Fault String :=
  let r := read Except.ok Except.error bytes
  let incomplete := match r.state with
    | .start => false
    | .inside .. => true
  (settle incomplete r.items.reverse 0 []).map String.ofList

/-- The text of `bytes` if they are UTF-8. -/
def decode? (bytes : Bytes) : Option String :=
  (decode bytes).toOption

end Utf8

end Courier
