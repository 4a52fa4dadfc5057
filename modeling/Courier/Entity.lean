import Courier.Decimal.Layout
import Courier.Entity.MediaType
import Courier.Entity.Hexdump

/-!
# Entities

An entity is a body together with its content type. Its display is a frame with the type
and the size, and the body in it as text or as a hexdump.

A size below a thousand bytes is exact. A greater one is divided by a thousand until it is
below that or the units run out ; it has one place if it is below ten and none otherwise.
The division is that of doubles, and a tie in the last digit goes to the even one.
-/

namespace Courier

/-! ### Sizes -/

namespace Size

/-- The units after the byte, each a thousand times the one before. -/
def units : List String := ["kB", "MB", "GB", "TB", "PB", "EB"]

/-- A thousand as a double. -/
def thousand : Binary64 := (Binary64.ofNat? 1000).getD (.zero false)

/-- A number divided by a thousand. -/
def reduce (x : Binary64) : Binary64 :=
  (x.div? thousand).getD x

/-- The number and unit in which a number of `unit`s is shown. -/
def scaled (x : Binary64) (unit : String) : List String → Binary64 × String
  | [] => (x, unit)
  | next :: rest => if x.below 1000 then (x, unit) else scaled (reduce x) next rest

/-- A number of bytes. -/
def print (size : Nat) : String :=
  if size < 1000 then toString size ++ " B"
  else
    let (x, unit) := scaled (reduce ((Binary64.ofNat? size).getD (.zero false))) "kB" units.tail
    x.fixed (if x.below 10 then 1 else 0) ++ " " ++ unit

end Size

/-! ### Bodies with their types -/

/-- A body with its content type. -/
structure Entity where
  contentType : String
  data : Bytes
  deriving Repr, DecidableEq, Inhabited

namespace Entity

/-- Whether the body is shown as a hexdump. -/
def isBinary (e : Entity) : Bool :=
  MediaType.isBinary e.contentType

/-- The line with the type and the size. -/
def caption (e : Entity) : String :=
  e.contentType ++ " (" ++ Size.print e.data.length ++ ")"

/-- The body as it is shown. -/
def body (e : Entity) : String :=
  if e.isBinary then Hexdump.dump e.data else Utf8.lossy e.data ++ "\n"

/-- The entity in its frame. -/
def display (e : Entity) : String :=
  "---\n" ++ e.caption ++ "\n---\n" ++ e.body ++ "#"

end Entity

end Courier
