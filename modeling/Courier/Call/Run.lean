import Courier.Call

/-!
# Running a call

A call that runs alone sleeps through each of its waits. `Client.run` lets the time pass : the
clock jumps to the end of a wait, or to the moment of cancellation if that comes no later,
and stands still in between.
-/

namespace Courier

/-- Events with their times. -/
abbrev Timeline := List (Instant × Event)

/-- A world at some time, with what has happened in it. -/
structure Scene (σ : Type) where
  clock : Clock
  world : σ
  log : Timeline := []

namespace Scene

variable {σ α : Type}

/-- The scene at a later time. -/
def later (s : Scene σ) (now : Instant) : Scene σ :=
  { s with clock := { s.clock with now } }

/-- The scene after a piece of a call. -/
def perform (s : Scene σ) (act : Act σ α) : Answer Failure α × Scene σ :=
  let (answer, world, events) := act.perform s.world
  (answer, { s with world, log := s.log ++ events.map (s.clock.now, ·) })

end Scene

namespace Client

open Call (Progress)

variable {σ : Type} (client : Client σ)

/-- No call waits more often : once at the gate, for each time it sends, and between these. -/
def maxWaits : Nat := 2 * maxRetries + 2

/-- When a call stops waiting, and whether that is because it is canceled. -/
def wakeUp (now wake : Instant) : Option Instant → Instant × Bool
  | some cancel => if cancel ≤ wake then (max now cancel, true) else (wake, false)
  | none => (wake, false)

/-- Let a call go on through a number of waits. -/
def follow (cancel : Option Instant) :
    Nat → Answer Failure Progress → Scene σ → Answer Failure Progress × Scene σ
  | n + 1, .ok (.waits c wake wait), scene =>
    let (now, canceled) := wakeUp scene.clock.now wake cancel
    let scene := scene.later now
    let (progress, scene) := scene.perform (client.resume c wait scene.clock canceled)
    follow cancel n progress scene
  | _, progress, scene => (progress, scene)

/-- The result of a call that waits no more. -/
def result? : Answer Failure Progress → Option (Answer Failure Response)
  | .ok (.answered response) => some (.ok response)
  | .ok (.waits ..) => none
  | .error stop => some (.error stop)

/-- Run a call to its end. It is canceled at an instant, or from the start if that is past. -/
def run (id : Nat) (request : Request) (cancel : Option Instant) (scene : Scene σ) :
    Option (Answer Failure Response) × Scene σ :=
  let canceled := match cancel with
    | some t => decide (t ≤ scene.clock.now)
    | none => false
  let (progress, scene) := scene.perform (client.begin id request scene.clock canceled)
  let (progress, scene) := client.follow cancel maxWaits progress scene
  (result? progress, scene)

end Client

end Courier
