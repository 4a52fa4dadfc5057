import Courier.Text.Ascii
import Courier.Text.Hidden

/-!
# Quoted text and records

The notation in which diagnostics show values. A text stands between double quotes, a
quote and a backslash inside it follow a backslash, a hidden character is written
by its name or its code point, and every other character is written as it is
(`Text.quoted`). A record is its name with its fields between braces (`Text.record`),
a list stands between brackets (`Text.list`).
-/

namespace Courier.Text

/-- The hexadecimal digits of a number, most significant first. -/
def hexDigits (n : Nat) : List Char :=
  (Nat.toDigits 16 n).map Ascii.lower

/-- A character as quoted text shows it. -/
def escaped (c : Char) : List Char :=
  if c = '\x00' then ['\\', '0']
  else if c = '\t' then ['\\', 't']
  else if c = '\n' then ['\\', 'n']
  else if c = '\x0d' then ['\\', 'r']
  else if c = '"' then ['\\', '"']
  else if c = '\\' then ['\\', '\\']
  else if ' ' ≤ c ∧ c ≤ '~' then [c]
  else if isHidden c then ['\\', 'u', '\x7b'] ++ hexDigits c.toNat ++ ['\x7d']
  else [c]

/-- A text between quotes. -/
def quoted (s : String) : String :=
  String.ofList ('"' :: s.toList.flatMap escaped ++ ['"'])

/-- A value that may be absent. -/
def optional : Option String → String
  | some shown => "Some(" ++ shown ++ ")"
  | none => "None"

/-- Shown values between brackets. -/
def list (shown : List String) : String :=
  "[" ++ ", ".intercalate shown ++ "]"

/-- Shown values between braces. -/
def set (shown : List String) : String :=
  "\x7b" ++ ", ".intercalate shown ++ "\x7d"

/-- A name with named fields. -/
def record (name : String) (fields : List (String × String)) : String :=
  name ++ " \x7b " ++ ", ".intercalate (fields.map fun (f, shown) => f ++ ": " ++ shown) ++ " \x7d"

/-- A name with one unnamed field. -/
def wrapped (name : String) (shown : String) : String :=
  name ++ "(" ++ shown ++ ")"

/-- A truth value. -/
def truth (b : Bool) : String :=
  if b then "true" else "false"

end Courier.Text
