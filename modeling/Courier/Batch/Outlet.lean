import Courier.Crash
import Courier.Failure

/-!
# Outlets

Results leave a batch through an outlet, which holds `capacity` of them at most. There are
writers at one end and a reader at the other. Either end may cancel the outlet with a
cause ; the first cause counts, and the reader gets it once, in place of any result that is
left. A reader that finds no result and no writer is at the end.
-/

namespace Courier

/-- An outlet for results. -/
structure Outlet (α : Type) where
  capacity : Nat
  /-- The results on their way, the oldest first. -/
  buffer : List α := []
  writers : Nat := 1
  canceled : Bool := false
  /-- The cause of cancellation, until the reader gets it. -/
  cause : Option Failure := none
  /-- The reader has left. -/
  closed : Bool := false
  deriving Repr, Inhabited

namespace Outlet

variable {α : Type}

/-- An outlet with one writer. -/
def ofCapacity (capacity : Nat) : Outlet α :=
  { capacity := max capacity 1 }

/-- The largest number of results that an outlet can be made for. -/
def maxCapacity : Nat :=
  Nat.pow 2 61 - 1

/-- What making a larger outlet ends in. -/
def oversized : Crash :=
  .ofText ("a semaphore may not have more than MAX_PERMITS permits (" ++ toString maxCapacity
    ++ ")")

/-- Cancel an outlet. Only the first cause counts. -/
def cancel (o : Outlet α) (cause : Failure) : Outlet α :=
  if o.canceled then o else { o with canceled := true, cause := some cause }

/-- The outlet with one more writer. -/
def addWriter (o : Outlet α) : Outlet α :=
  { o with writers := o.writers + 1 }

/-- The outlet with one writer less. -/
def dropWriter (o : Outlet α) : Outlet α :=
  { o with writers := o.writers - 1 }

/-- Whether writing has become useless. -/
def refuses (o : Outlet α) : Bool :=
  o.canceled || o.closed

/-- Write a result. A writer waits while there is no room. -/
def write (o : Outlet α) (a : α) : Option (Except Failure Unit × Outlet α) :=
  if o.refuses then some (.error .canceled, o)
  else if o.buffer.length < o.capacity then some (.ok (), { o with buffer := o.buffer ++ [a] })
  else none

/-- Read the next result, or nothing at the end. The reader waits while there may be more. -/
def next (o : Outlet α) : Option (Except Failure (Option α) × Outlet α) :=
  if o.canceled then some (.error (o.cause.getD .canceled), { o with cause := none })
  else
    match o.buffer with
    | a :: rest => some (.ok (some a), { o with buffer := rest })
    | [] => if o.writers = 0 then some (.ok none, o) else none

/-- The reader leaves, and cancels the outlet. -/
def close (o : Outlet α) : Outlet α :=
  { o.cancel .canceled with closed := true, buffer := [] }

/-- The reader's end for diagnostics. -/
def describe (o : Outlet α) : String :=
  Text.record "ResultIterator" [("canceled", Text.truth o.canceled)]

end Outlet

end Courier
