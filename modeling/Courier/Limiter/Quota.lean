import Courier.Limiter.Window
import Courier.Header.Map
import Courier.HttpDate
import Courier.Status
import Courier.Text.Natural

/-!
# A quota that listens to the server

A quota says how many requests may be sent in a window and how they are spread over it :
in a burst until the window is used up, or evenly. `Quota.next` hands out the earliest
instant for one more request. `Quota.update` takes the numbers that a response states
about the limit, what remains of it and when it is reset, and refuses with a retry if the
response asks for one or says that there were too many requests.

The three numbers are taken one after the other, so one that makes no sense leaves those
before it taken.
-/

namespace Courier

open Header (Name Value)
open Limiter (Report Refusal)

/-- How the requests of a window are spread over it. -/
inductive Pacing where
  /-- At once until the window is used up, then at the next one. -/
  | burst
  /-- Evenly. -/
  | meter
  deriving Repr, DecidableEq, Inhabited

/-- The unit of the times that a server states as numbers. -/
inductive TimeUnit where
  | seconds
  | milliseconds
  deriving Repr, DecidableEq, Inhabited

/-- A number of units. -/
def TimeUnit.duration : TimeUnit → Nat → Duration
  | .seconds, n => n * second
  | .milliseconds, n => n * millisecond

/-- A quota of requests. -/
structure Quota where
  /-- Requests allowed in a window until the server says otherwise. -/
  events : Nat := 60
  /-- The length of a window. Without length nothing is limited. -/
  window : Duration := 60 * second
  pacing : Pacing := .burst
  units : TimeUnit := .seconds
  /-- The longest delay of one request. -/
  maxDelay : Option Duration := none
  deriving Repr, DecidableEq, Inhabited

namespace Quota

/-- The state at the beginning of the first window, unless the clock cannot show its end. -/
def begin? (q : Quota) (start : Instant) : Option Window :=
  (start.add? q.window).map fun reset =>
    { limit := max q.events 1, remaining := max q.events 1, reset, last := none }

/-- An instant not beyond the longest delay from `now`. -/
def cap (q : Quota) (now slot : Instant) : Instant :=
  match q.maxDelay.bind now.add? with
  | some limit => min slot limit
  | none => slot

/-- The state's view at `now`, and the state there. No view means that the clock ran over. -/
def report (q : Quota) (w : Window) (now : Instant) : Option Report × Window :=
  match w.roll? q.window now with
  | some w => (some ⟨w.limit, w.remaining, w.reset⟩, w)
  | none => (none, w)

/-- The time between two requests that are spread evenly. -/
def spacing (q : Quota) (limit : Nat) : Duration :=
  q.window / min (max limit 1) (Nat.pow 2 32 - 1)

/-- Hand out an instant in a burst. The request that finds nothing left opens the next window. -/
def burst (q : Quota) (w : Window) (now : Instant) : Instant × Window :=
  if w.remaining > 0 then (now, { w with remaining := w.remaining - 1 })
  else
    (w.reset, { w with reset := (w.reset.add? q.window).getD w.reset, remaining := w.limit - 1 })

/-- The instant for an evenly spread request. There is none if the clock cannot show it. -/
def metered? (q : Quota) (w : Window) (now : Instant) : Option Instant :=
  match w.last with
  | none => some now
  | some last => (last.add? (q.spacing w.limit)).map (max now)

/-- The earliest instant for one more request, and the state after it. No instant means that
the clock ran over. -/
def next (q : Quota) (w : Window) (now : Instant) : Option Instant × Window :=
  if q.window = 0 then (some now, w)
  else
    match w.roll? q.window now with
    | none => (none, w)
    | some w =>
      match q.pacing with
      | .burst =>
        let (slot, w) := q.burst w now
        (some (q.cap now slot), { w with last := some (q.cap now slot) })
      | .meter =>
        match q.metered? w now with
        | none => (none, w)
        | some slot =>
          (some (q.cap now slot),
            { w with remaining := w.remaining - 1, last := some (q.cap now slot) })

/-- The headers that state a limit, in the order of preference. -/
def limitNames : List Name := [⟨"x-ratelimit-limit"⟩, ⟨"x-rate-limit-limit"⟩, ⟨"ratelimit-limit"⟩]

/-- The headers that state what remains. -/
def remainingNames : List Name :=
  [⟨"x-ratelimit-remaining"⟩, ⟨"x-rate-limit-remaining"⟩, ⟨"ratelimit-remaining"⟩]

/-- The headers that state the moment of reset. -/
def resetNames : List Name := [⟨"x-ratelimit-reset"⟩, ⟨"x-rate-limit-reset"⟩, ⟨"ratelimit-reset"⟩]

/-- The number in the first header of `names` whose first value is not blank. -/
def stated (headers : Headers) : List Name → Except Refusal (Option Nat)
  | [] => .ok none
  | name :: rest =>
    match headers.first? name with
    | none => stated headers rest
    | some value =>
      let text := Text.trim value.lossy
      if text = "" then stated headers rest
      else match Natural.readBounded Natural.bound64 text.toList with
        | .ok n => .ok (some n)
        | .error _ => .error (.invalidHeader name.text text)

/-- The instant of a moment that is stated in units since 1970, now if it is past. -/
def instantOf? (q : Quota) (clock : Clock) (n : Nat) : Option Instant :=
  let moment : Int := q.units.duration n
  if moment ≤ maxWall then clock.now.add? (clock.untilWall moment) else none

/-- How long a retry is to be put off, as a number of units or until a date. -/
def delayOf? (q : Quota) (clock : Clock) (value : Value) : Option Duration :=
  match value.text? with
  | none => none
  | some raw =>
    let text := Text.trim raw
    match Natural.readBounded Natural.bound64 text.toList with
    | .ok n => some (q.units.duration n)
    | .error _ => (HttpDate.parse? text).map clock.untilWall

/-- Take the numbers that a response states. -/
def takeStated (q : Quota) (w : Window) (clock : Clock) (headers : Headers) :
    Except Refusal Unit × Window :=
  match stated headers limitNames with
  | .error e => (.error e, w)
  | .ok limit =>
    let w := match limit with
      | some n => { w with limit := max n 1 }
      | none => w
    match stated headers remainingNames with
    | .error e => (.error e, w)
    | .ok remaining =>
      let w := match remaining with
        | some n => { w with remaining := n }
        | none => w
      match stated headers resetNames with
      | .error e => (.error e, w)
      | .ok none => (.ok (), w)
      | .ok (some n) =>
        match q.instantOf? clock n with
        | some reset => (.ok (), { w with reset })
        | none => (.error (.invalidHeader "x-ratelimit-reset" (toString n)), w)

/-- Account for a response. No answer means that the clock ran over. -/
def update (q : Quota) (w : Window) (clock : Clock) (status : Status) (headers : Headers) :
    Option (Except Refusal Unit) × Window :=
  match q.takeStated w clock headers with
  | (.error e, w) => (some (.error e), w)
  | (.ok (), w) =>
    match headers.first? Header.retryAfter with
    | some value =>
      let invalid : Refusal := .invalidHeader Header.retryAfter.text value.lossy
      match (q.delayOf? clock value).bind clock.now.add? with
      | none => (some (.error invalid), w)
      | some slot => (some (.error (.retry (q.cap clock.now slot))), w)
    | none =>
      if status = Status.tooManyRequests then
        match w.roll? q.window clock.now with
        | none => (none, w)
        | some w => (some (.error (.retry (q.cap clock.now (max w.reset clock.now)))), w)
      else (some (.ok ()), w)

end Quota

end Courier
