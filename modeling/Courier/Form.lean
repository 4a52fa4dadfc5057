import Courier.Text.Utf8
import Courier.Text.Split
import Courier.Text.Ascii

/-!
# URL-encoded forms

A form is a list of pairs of texts. `Form.encode` writes the bytes of a text as
themselves if they are ASCII letters, digits or one of `*-._`, a space as a plus sign and
every other byte as a percent sign with two capital digits ; an equals sign stands
between the two texts of a pair and an ampersand between two pairs. `Form.decode` reads
any byte sequence : parts without a byte are skipped, a part without an equals sign is a
name without a value, and a percent sign without two digits stands for itself.
-/

namespace Courier.Form

/-- A form : names and values in order. -/
abbrev Pairs := List (String × String)

/-- A byte that is written as itself. -/
def isPlain (b : UInt8) : Bool :=
  (0x30 ≤ b ∧ b ≤ 0x39) ∨ (0x41 ≤ b ∧ b ≤ 0x5A) ∨ (0x61 ≤ b ∧ b ≤ 0x7A)
    ∨ b = 0x2A ∨ b = 0x2D ∨ b = 0x2E ∨ b = 0x5F

/-- A byte after a percent sign. -/
def percent (b : UInt8) : List Char :=
  ['%', Ascii.hexCapital (b.toNat / 16), Ascii.hexCapital (b.toNat % 16)]

/-- A byte of a name or value. -/
def encodeByte (b : UInt8) : List Char :=
  if b = 0x20 then ['+']
  else if isPlain b then [Char.ofNat b.toNat]
  else percent b

/-- A name or value. -/
def encodeText (s : String) : List Char :=
  (Utf8.encode s).flatMap encodeByte

/-- A name with its value. -/
def encodePair (pair : String × String) : List Char :=
  encodeText pair.1 ++ '=' :: encodeText pair.2

/-- A form, an ampersand between its pairs. -/
def encode : Pairs → List Char
  | [] => []
  | [pair] => encodePair pair
  | pair :: next :: rest => encodePair pair ++ '&' :: encode (next :: rest)

/-- A form as text. -/
def print (pairs : Pairs) : String :=
  String.ofList (encode pairs)

/-- The value of a byte that is a hexadecimal digit. -/
def hexByte? (b : UInt8) : Option Nat :=
  if b < 0x80 then Ascii.hexValue? (Char.ofNat b.toNat) else none

/-- Bytes with every percent sign and its two digits replaced by the byte they write. -/
def unescape : Bytes → Bytes
  | 0x25 :: h :: l :: rest =>
    match hexByte? h, hexByte? l with
    | some hi, some lo => UInt8.ofNat (hi * 16 + lo) :: unescape rest
    | _, _ => 0x25 :: unescape (h :: l :: rest)
  | b :: rest => b :: unescape rest
  | [] => []

/-- The text of a name or value. -/
def decodeText (bytes : Bytes) : String :=
  Utf8.lossy (unescape (bytes.map fun b => if b = 0x2B then 0x20 else b))

/-- The name and value of a part. -/
def decodePart (part : Bytes) : String × String :=
  let (name, value) := Text.cutAt 0x3D part
  (decodeText name, decodeText (value.getD []))

/-- The form that bytes write. -/
def decode (bytes : Bytes) : Pairs :=
  ((Text.splitAt 0x26 bytes).filter (· ≠ [])).map decodePart

end Courier.Form
