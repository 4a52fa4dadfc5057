import Courier.Json.Numeral
import Courier.Text.Ascii
import Courier.Text.Utf8

/-!
# JSON text

A document is the tree that a JSON text spells : an object keeps its fields in the order
and number in which they stand, and a numeral its digits. `Document.parse?` accepts
exactly the grammar of JSON, except that a text may hold ill-formed bytes and halves of
surrogate pairs ; such a text has no value. What a document means as a value, and which
documents are too deep or hold a text or number without a value, is for the reader of the
document to decide (`Document.value?`).
-/

namespace Courier.Json

open Utf8 (Symbol)

/-- The tree of a JSON text. A text with half a surrogate pair or ill-formed bytes has no value. -/
inductive Document where
  | null
  | boolean (b : Bool)
  | number (n : Numeral)
  | string (s : Option String)
  | array (items : List Document)
  | object (fields : List (Option String × Document))
  deriving Repr, Inhabited

namespace Document

/-- The blanks between tokens. -/
def isBlank (c : Symbol) : Bool :=
  c = some ' ' ∨ c = some '\n' ∨ c = some '\t' ∨ c = some '\x0d'

/-- What follows the blanks at the front. -/
def skip (cs : List Symbol) : List Symbol :=
  cs.dropWhile isBlank

/-- A decimal digit. -/
def isDigit (c : Symbol) : Bool :=
  c.any Ascii.isDigit

/-- The digits at the front, and what follows them. -/
def spanDigits (cs : List Symbol) : List Char × List Symbol :=
  ((cs.takeWhile isDigit).filterMap id, cs.dropWhile isDigit)

/-- The number that four hexadecimal digits write. -/
def unit? : List Symbol → Option (Nat × List Symbol)
  | some a :: some b :: some c :: some d :: rest =>
    match Ascii.hexValue? a, Ascii.hexValue? b, Ascii.hexValue? c, Ascii.hexValue? d with
    | some a, some b, some c, some d => some (((a * 16 + b) * 16 + c) * 16 + d, rest)
    | _, _, _, _ => none
  | _ => none

/-- A text being read : its characters, newest first, unless one of them has no value. -/
abbrev Spelled := Option (List Char)

/-- A text with one more character. -/
def Spelled.push (s : Spelled) (c : Char) : Spelled :=
  s.map (c :: ·)

/-- The character of a one-letter escape. -/
def letter? (c : Char) : Option Char :=
  if c = '"' ∨ c = '\\' ∨ c = '/' then some c
  else if c = 'b' then some '\x08'
  else if c = 'f' then some '\x0c'
  else if c = 'n' then some '\n'
  else if c = 'r' then some '\x0d'
  else if c = 't' then some '\t'
  else none

/-- The rest of a text, after its opening quote. A high surrogate waits in `high` for the low
one that has to follow it. -/
def text : Nat → Option Nat → Spelled → List Symbol → Option (Option String × List Symbol)
  | 0, _, _, _ => none
  | fuel + 1, high, read, cs =>
    let broken : Spelled := if high.isSome then none else read
    match cs with
    | [] => none
    | some '"' :: rest => some (broken.map fun cs => String.ofList cs.reverse, rest)
    | some '\\' :: some 'u' :: rest =>
      match unit? rest with
      | none => none
      | some (unit, rest) =>
        match high with
        | some h =>
          if 0xDC00 ≤ unit ∧ unit ≤ 0xDFFF then
            let c := Char.ofNat (0x10000 + (h - 0xD800) * 0x400 + (unit - 0xDC00))
            text fuel none (read.push c) rest
          else if 0xD800 ≤ unit ∧ unit ≤ 0xDBFF then text fuel (some unit) none rest
          else text fuel none none rest
        | none =>
          if 0xD800 ≤ unit ∧ unit ≤ 0xDBFF then text fuel (some unit) read rest
          else if 0xDC00 ≤ unit ∧ unit ≤ 0xDFFF then text fuel none none rest
          else text fuel none (read.push (Char.ofNat unit)) rest
    | some '\\' :: some c :: rest =>
      match letter? c with
      | none => none
      | some d => text fuel none (broken.push d) rest
    | some c :: rest =>
      if c < ' ' ∨ c = '\\' then none else text fuel none (broken.push c) rest
    | none :: rest => text fuel none none rest

/-- The exponent of a numeral, if there is one. -/
def exponent : List Symbol → Option (Option (Bool × List Char) × List Symbol)
  | [] => some (none, [])
  | c :: rest =>
    if c = some 'e' ∨ c = some 'E' then
      let (negative, rest) := match rest with
        | some '-' :: rest => (true, rest)
        | some '+' :: rest => (false, rest)
        | rest => (false, rest)
      let (digits, rest) := spanDigits rest
      if digits = [] then none else some (some (negative, digits), rest)
    else some (none, c :: rest)

/-- What follows the whole part of a numeral. -/
def fraction (negative : Bool) (whole : List Char) : List Symbol → Option (Numeral × List Symbol)
  | some '.' :: rest =>
    let (part, rest) := spanDigits rest
    if part = [] then none
    else (exponent rest).map fun (e, rest) => (⟨negative, whole, some part, e⟩, rest)
  | rest => (exponent rest).map fun (e, rest) => (⟨negative, whole, none, e⟩, rest)

/-- A numeral after its sign. A zero is not followed by another digit. -/
def unsigned (negative : Bool) (cs : List Symbol) : Option (Numeral × List Symbol) :=
  let (whole, rest) := spanDigits cs
  match whole with
  | [] => none
  | '0' :: _ :: _ => none
  | _ => fraction negative whole rest

/-- A numeral. -/
def numeral : List Symbol → Option (Numeral × List Symbol)
  | some '-' :: rest => unsigned true rest
  | rest => unsigned false rest

mutual

/-- The value at the front, and what follows it. -/
def value : Nat → List Symbol → Option (Document × List Symbol)
  | 0, _ => none
  | fuel + 1, cs =>
    match skip cs with
    | some 'n' :: some 'u' :: some 'l' :: some 'l' :: rest => some (.null, rest)
    | some 't' :: some 'r' :: some 'u' :: some 'e' :: rest => some (.boolean true, rest)
    | some 'f' :: some 'a' :: some 'l' :: some 's' :: some 'e' :: rest =>
      some (.boolean false, rest)
    | some '"' :: rest =>
      (text (rest.length + 1) none (some []) rest).map fun (s, rest) => (.string s, rest)
    | some '[' :: rest =>
      match skip rest with
      | some ']' :: rest => some (.array [], rest)
      | rest => (items fuel rest).map fun (vs, rest) => (.array vs, rest)
    | some '\x7b' :: rest =>
      match skip rest with
      | some '\x7d' :: rest => some (.object [], rest)
      | rest => (fields fuel rest).map fun (fs, rest) => (.object fs, rest)
    | rest => (numeral rest).map fun (n, rest) => (.number n, rest)

/-- The items of an array up to its closing bracket. -/
def items : Nat → List Symbol → Option (List Document × List Symbol)
  | 0, _ => none
  | fuel + 1, cs =>
    match value fuel cs with
    | none => none
    | some (v, rest) =>
      match skip rest with
      | some ']' :: rest => some ([v], rest)
      | some ',' :: rest => (items fuel rest).map fun (vs, rest) => (v :: vs, rest)
      | _ => none

/-- The fields of an object up to its closing brace. -/
def fields : Nat → List Symbol → Option (List (Option String × Document) × List Symbol)
  | 0, _ => none
  | fuel + 1, cs =>
    match skip cs with
    | some '"' :: rest =>
      match text (rest.length + 1) none (some []) rest with
      | none => none
      | some (k, rest) =>
        match skip rest with
        | some ':' :: rest =>
          match value fuel rest with
          | none => none
          | some (v, rest) =>
            match skip rest with
            | some '\x7d' :: rest => some ([(k, v)], rest)
            | some ',' :: rest => (fields fuel rest).map fun (fs, rest) => ((k, v) :: fs, rest)
            | _ => none
        | _ => none
    | _ => none

end

/-- The document that a whole text spells. -/
def parse? (cs : List Symbol) : Option Document :=
  match value (cs.length + 1) cs with
  | some (d, rest) => if skip rest = [] then some d else none
  | none => none

mutual

/-- The value of a document whose arrays and objects are nested at most `depth` deep. -/
def value? (depth : Nat) : Document → Option Json
  | .null => some .null
  | .boolean b => some (.boolean b)
  | .number n => n.value?.map .number
  | .string s => s.map .string
  | .array items =>
    match depth with
    | 0 => none
    | depth + 1 => (values? depth items).map .array
  | .object fields =>
    match depth with
    | 0 => none
    | depth + 1 => (fieldValues? depth fields).map ofFields

/-- The values of all documents of a list. -/
def values? (depth : Nat) : List Document → Option (List Json)
  | [] => some []
  | d :: rest =>
    match value? depth d, values? depth rest with
    | some v, some vs => some (v :: vs)
    | _, _ => none

/-- The fields of an object with their values. -/
def fieldValues? (depth : Nat) : List (Option String × Document) → Option (List (String × Json))
  | [] => some []
  | (k, d) :: rest =>
    match k, value? depth d, fieldValues? depth rest with
    | some k, some v, some vs => some ((k, v) :: vs)
    | _, _, _ => none

end

end Document

/-- Documents are read this deep. -/
def maxDepth : Nat := 127

end Courier.Json
