/-!
# Time

Lengths of time and instants are whole nanoseconds. An instant is counted from the
moment a run begins, may lie before it, and cannot pass `maxInstant`, where the monotonic
clock's count of seconds ends ; adding a length either stays on the clock or fails
(`Instant.add?`). Differences stop at zero (`Instant.since`). A `Clock` reads both the
monotonic and the wall clock, which run at the same speed.

Sleeping has the grain of a millisecond : a sleep ends at the first whole millisecond
that is not before its time (`Instant.wake`).
-/

namespace Courier

/-- A length of time in nanoseconds. -/
abbrev Duration := Nat

/-- A point of the monotonic clock, in nanoseconds from the beginning of a run. -/
abbrev Instant := Int

/-- Nanoseconds of a second. -/
def second : Nat := 1000000000

/-- Nanoseconds of a millisecond. -/
def millisecond : Nat := 1000000

/-- The last instant of the clock. At the beginning of a run the clock shows a million
seconds, and its seconds are a signed word of 64 bits. -/
def maxInstant : Instant :=
  ((Nat.pow 2 63 : Nat) - 1000000) * 1000000000 - 1

/-- The longest length of time : its seconds are an unsigned word of 64 bits. -/
def maxDuration : Duration :=
  Nat.pow 2 64 * 1000000000 - 1

/-- The last moment of the wall clock, in nanoseconds since 1970. -/
def maxWall : Int :=
  (Nat.pow 2 63 : Nat) * 1000000000 - 1

namespace Duration

/-- A multiple of a length of time, at most the longest one. -/
def times (d : Duration) (n : Nat) : Duration :=
  min (d * n) maxDuration

/-- A number of `unit`s with its fraction in `width` digits, without zeros at its end. -/
def decimal (whole part width : Nat) : String :=
  let digits := Nat.toDigits 10 part
  let padded := List.replicate (width - digits.length) '0' ++ digits
  let shown := (padded.reverse.dropWhile (· = '0')).reverse
  if shown = [] then toString whole else toString whole ++ "." ++ String.ofList shown

/-- A length of time in the largest unit of which it has one at least. -/
def print (d : Duration) : String :=
  if d ≥ second then decimal (d / second) (d % second) 9 ++ "s"
  else if d ≥ millisecond then decimal (d / millisecond) (d % millisecond) 6 ++ "ms"
  else if d ≥ 1000 then decimal (d / 1000) (d % 1000) 3 ++ "µs"
  else toString d ++ "ns"

end Duration

namespace Instant

/-- The instant `d` after `t`, unless the clock ends before it. -/
def add? (t : Instant) (d : Duration) : Option Instant :=
  if t + d ≤ maxInstant then some (t + d) else none

/-- How long `t` is after `earlier`, zero if it is not. -/
def since (t earlier : Instant) : Duration :=
  (t - earlier).toNat

/-- How long a sleep lasts whose end the clock cannot show. -/
def farFuture : Duration :=
  86400 * 365 * 30 * second

/-- The first whole millisecond that is not before `t`. -/
def ceilMillis (t : Instant) : Instant :=
  -((-t) / millisecond) * millisecond

/-- When a sleep of `d` that starts at `t` ends. -/
def wake (t : Instant) (d : Duration) : Instant :=
  ceilMillis (match add? t d with
    | some t => t
    | none => t + farFuture)

end Instant

/-- The reading of both clocks. -/
structure Clock where
  /-- The monotonic clock. -/
  now : Instant
  /-- The wall clock at the beginning of the run, in nanoseconds since 1970. -/
  epoch : Int
  deriving Repr, DecidableEq, Inhabited

namespace Clock

/-- The wall clock, in nanoseconds since 1970. -/
def wall (c : Clock) : Int :=
  c.epoch + c.now

/-- How long until a moment of the wall clock, zero if it is past. -/
def untilWall (c : Clock) (moment : Int) : Duration :=
  (moment - c.wall).toNat

end Clock

end Courier
