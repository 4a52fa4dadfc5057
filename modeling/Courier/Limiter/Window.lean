import Courier.Clock

/-!
# The window of a quota

A limiter reports the state of its window, and it may refuse : a response asks for the
request to be sent again later, a header does not make sense, or something else is wrong.

A quota allows a number of requests in every window of time. `Window` is the state kept
for it : how many requests the quota has, how many remain until `reset`, and the last
instant handed out. Windows follow each other without a gap, so at an instant not before
`reset` the state moves on by as many whole windows as are needed to put `reset` after it
and is full again (`Window.roll?`).

The way that `reset` moves is counted in nanoseconds in a word of 64 bits and stops at
its greatest value.
-/

namespace Courier

/-! ### What a limiter says -/

namespace Limiter

/-- A view of a limiter's window. -/
structure Report where
  limit : Nat
  remaining : Nat
  reset : Instant
  deriving Repr, DecidableEq, Inhabited

/-- Why a limiter refuses. -/
inductive Refusal where
  /-- The request is to be sent again at `after`. -/
  | retry (after : Instant)
  /-- The value of a header does not make sense. -/
  | invalidHeader (name value : String)
  | other (message : String)
  deriving Repr, DecidableEq, Inhabited

/-- The wording of a refusal at an instant. -/
def Refusal.message (now : Instant) : Refusal → String
  | .retry after => "retry requested in " ++ (after.since now).print
  | .invalidHeader name value => "invalid '" ++ name ++ "' header value '" ++ value ++ "'"
  | .other message => message

end Limiter

/-! ### Windows -/

/-- The state of a quota. -/
structure Window where
  limit : Nat
  remaining : Nat
  /-- The end of the present window. -/
  reset : Instant
  /-- The last instant handed out. -/
  last : Option Instant
  deriving Repr, DecidableEq, Inhabited

namespace Window

/-- The greatest step of `reset`, in nanoseconds. -/
def maxAdvance : Duration := Nat.pow 2 64 - 1

/-- How far `reset` moves to pass `now`, in whole windows of the given length. -/
def advance (length : Duration) (behind : Duration) : Duration :=
  min (length * (behind / length + 1)) maxAdvance

/-- The state at `now` for windows of the given length. There is none if the clock cannot
show the end of a window that begins at `now`. Windows of no length never end. -/
def roll? (w : Window) (length : Duration) (now : Instant) : Option Window :=
  if now < w.reset ∨ length = 0 then some w
  else
    match now.add? length with
    | none => none
    | some fresh =>
      let reset := (w.reset.add? (advance length (now.since w.reset))).getD fresh
      some { w with reset, remaining := w.limit }

end Window

end Courier
