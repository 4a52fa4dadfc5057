import Courier.Json.Basic
import Courier.Decimal.Layout
import Courier.Text.Ascii

/-!
# Writing JSON

The compact form : no blanks, keys in the order of the object, doubles with the fewest
digits that read back, and texts with an escape for the quote, the backslash and the
control characters below the space. Every other character stands for itself.
-/

namespace Courier.Json

/-- How JSON writes doubles. -/
def floats : FloatStyle := ⟨true⟩

/-- A number. -/
def Number.write : Number → String
  | .integer n => toString n
  | .real x => floats.write x

/-- A character inside a text. -/
def escaped (c : Char) : List Char :=
  if c = '"' then ['\\', '"']
  else if c = '\\' then ['\\', '\\']
  else if c = '\x08' then ['\\', 'b']
  else if c = '\t' then ['\\', 't']
  else if c = '\n' then ['\\', 'n']
  else if c = '\x0c' then ['\\', 'f']
  else if c = '\x0d' then ['\\', 'r']
  else if c < ' ' then
    ['\\', 'u', '0', '0', Ascii.hexDigit (c.toNat / 16), Ascii.hexDigit (c.toNat % 16)]
  else [c]

/-- A text between quotes. -/
def writeText (s : String) : List Char :=
  '"' :: s.toList.flatMap escaped ++ ['"']

mutual

/-- A value in compact form. -/
def write : Json → List Char
  | .null => ['n', 'u', 'l', 'l']
  | .boolean true => ['t', 'r', 'u', 'e']
  | .boolean false => ['f', 'a', 'l', 's', 'e']
  | .number n => n.write.toList
  | .string s => writeText s
  | .array [] => ['[', ']']
  | .array (v :: rest) => '[' :: write v ++ writeItems rest ++ [']']
  | .object [] => ['\x7b', '\x7d']
  | .object ((k, v) :: rest) =>
    '\x7b' :: writeText k ++ ':' :: write v ++ writeFields rest ++ ['\x7d']

/-- The items of an array after the first. -/
def writeItems : List Json → List Char
  | [] => []
  | v :: rest => ',' :: write v ++ writeItems rest

/-- The fields of an object after the first. -/
def writeFields : List (String × Json) → List Char
  | [] => []
  | (k, v) :: rest => ',' :: writeText k ++ ':' :: write v ++ writeFields rest

end

/-- A value as text. -/
def print (v : Json) : String :=
  String.ofList (write v)

end Courier.Json
