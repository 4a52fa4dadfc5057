import Courier.Text.Utf8
import Courier.Text.Ascii
import Courier.Text.Blank

/-!
# Header names and values

A name is a token of RFC 9110, kept in small letters. A value is a byte sequence without
control characters other than the tab, and may be marked sensitive, which keeps it out of
logs.
-/

namespace Courier.Header

/-- A header's name in small letters. -/
structure Name where
  text : String
  deriving Repr, DecidableEq, Inhabited

/-- A character of a name. -/
def isNameChar (c : Char) : Bool :=
  Ascii.isLetter c ∨ Ascii.isDigit c ∨ c ∈ "!#$%&'*+-.^_`|~".toList

/-- The longest name has this many characters. -/
def maxNameLength : Nat := 65535

/-- The name that a text spells in any case. -/
def Name.parse? (s : String) : Option Name :=
  let cs := s.toList
  if cs ≠ [] ∧ cs.all isNameChar ∧ cs.length ≤ maxNameLength then some ⟨Ascii.lowercase s⟩ else none

/-- The wording for a text that is no name. -/
def invalidName : String := "invalid HTTP header name"

/-- A header's value. -/
structure Value where
  bytes : Bytes
  sensitive : Bool := false
  deriving Repr, DecidableEq, Inhabited

/-- A byte of a value. -/
def isValueByte (b : UInt8) : Bool :=
  (b ≥ 0x20 ∧ b ≠ 0x7F) ∨ b = 0x09

/-- The value of bytes that may stand in one. -/
def Value.parse? (bytes : Bytes) : Option Value :=
  if bytes.all isValueByte then some { bytes } else none

/-- The value of a text. -/
def Value.ofText? (s : String) : Option Value :=
  Value.parse? (Utf8.encode s)

/-- The wording for bytes that are no value. -/
def invalidValue : String := "failed to parse header value"

/-- The same value, to be kept out of logs. -/
def Value.secret (v : Value) : Value :=
  { v with sensitive := true }

/-- The text of a value of printing ASCII characters, blanks and tabs. -/
def Value.text? (v : Value) : Option String :=
  if v.bytes.all fun b => (0x20 ≤ b ∧ b < 0x7F) ∨ b = 0x09 then
    some (String.ofList (v.bytes.map fun b => Char.ofNat b.toNat))
  else none

/-- The text of any value, ill-formed runs replaced. -/
def Value.lossy (v : Value) : String :=
  Utf8.lossy v.bytes

def accept : Name := ⟨"accept"⟩
def authorization : Name := ⟨"authorization"⟩
def contentLength : Name := ⟨"content-length"⟩
def contentType : Name := ⟨"content-type"⟩
def cookie : Name := ⟨"cookie"⟩
def proxyAuthorization : Name := ⟨"proxy-authorization"⟩
def retryAfter : Name := ⟨"retry-after"⟩
def setCookie : Name := ⟨"set-cookie"⟩

end Courier.Header
