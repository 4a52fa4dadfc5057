import Courier.Clock

/-!
# Crashes

A part of a run crashes when it gives up in a way that nobody foresaw. A crash is not an
error : no result type lists it, it ends whatever was running, and all it leaves is a
text, or not even that.
-/

namespace Courier

/-- A crash with the text it left, if it left one. -/
structure Crash where
  message : Option String
  deriving Repr, DecidableEq, Inhabited

namespace Crash

/-- A crash with a text. -/
def ofText (message : String) : Crash :=
  ⟨some message⟩

/-- The clock cannot show the sum of an instant and a length of time. -/
def clockOverflow : Crash :=
  ofText "overflow when adding duration to instant"

end Crash

/-- How something stops short : with an error of its own kind, or in a crash. -/
inductive Stop (ε : Type) where
  | error (e : ε)
  | crash (c : Crash)
  deriving Repr, DecidableEq

/-- What a collaborator answers : a value, an error of its own kind, or a crash. -/
abbrev Answer (ε α : Type) := Except (Stop ε) α

namespace Answer

variable {ε α : Type}

/-- An answer that is an error. -/
def fail (e : ε) : Answer ε α :=
  Except.error (Stop.error e)

/-- An answer that is a crash. -/
def crashed (c : Crash) : Answer ε α :=
  Except.error (Stop.crash c)

/-- An answer that cannot be a crash. -/
def ofExcept : Except ε α → Answer ε α
  | .ok a => Except.ok a
  | .error e => fail e

/-- An answer that can only be a value or a crash. -/
def ofOption (c : Crash) : Option α → Answer ε α
  | some a => Except.ok a
  | none => crashed c

end Answer

end Courier
