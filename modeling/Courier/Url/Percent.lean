import Courier.Text.Utf8
import Courier.Text.Ascii

/-!
# Percent encoding in URLs

Every part of a URL has its own set of characters that are written as a percent sign and
two capital digits for each of their bytes. All sets hold the control characters and
everything outside ASCII.
-/

namespace Courier.Url

/-- The parts of a URL that differ in what they encode. -/
inductive Part where
  /-- A path without structure, or a host that is no domain. -/
  | plain
  | fragment
  | query
  /-- The query of a scheme that the web treats in a special way. -/
  | specialQuery
  | path
  | userinfo
  deriving Repr, DecidableEq

/-- The printing ASCII characters that a part encodes. -/
def Part.encoded : Part → List Char
  | .plain => []
  | .fragment => " \"<>`".toList
  | .query => " \"#<>".toList
  | .specialQuery => " \"#<>'".toList
  | .path => " \"<>`#?\x7b\x7d".toList
  | .userinfo => " \"<>`#?\x7b\x7d/:;=@[\\]^|".toList

/-- Whether a part keeps a character as it is. -/
def Part.keeps (part : Part) (c : Char) : Bool :=
  ' ' ≤ c ∧ c ≤ '~' ∧ c ∉ part.encoded

/-- A byte in percent notation. -/
def percent (b : UInt8) : List Char :=
  ['%', Ascii.hexCapital (b.toNat / 16), Ascii.hexCapital (b.toNat % 16)]

/-- A character as a part of a URL. -/
def encodeChar (part : Part) (c : Char) : List Char :=
  if part.keeps c then [c] else (String.utf8EncodeChar c).flatMap percent

/-- Characters as a part of a URL. -/
def encode (part : Part) (cs : List Char) : List Char :=
  cs.flatMap (encodeChar part)

/-- Characters as bytes, with every percent sign and its two digits replaced by the byte they
write. -/
def unescape : List Char → Bytes
  | '%' :: h :: l :: rest =>
    match Ascii.hexValue? h, Ascii.hexValue? l with
    | some hi, some lo => UInt8.ofNat (hi * 16 + lo) :: unescape rest
    | _, _ => 0x25 :: unescape (h :: l :: rest)
  | c :: rest => String.utf8EncodeChar c ++ unescape rest
  | [] => []

end Courier.Url
