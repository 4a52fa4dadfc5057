import Courier.Batch

/-!
# Running a batch

One thread runs all agents of a batch in turn : the production first and then the jobs in
the order of their indices, each until it has to wait. The reader of the outlet reads on
when nobody else can move, and time passes only when the reader cannot move either.

Nothing bounds the steps of a batch whose producer has no end, so the number of rounds is
given.
-/

namespace Courier.Batch

variable {σ : Type} (p : Plan σ)

/-! ### Turns -/

/-- Steps of production until it waits. Every fifth step adds a job, but for the first job, which
production may have waited to add. -/
def produceAll : Nat → State σ → State σ
  | 0, s => s
  | n + 1, s =>
    match produce p s with
    | some s => produceAll n s
    | none => s

/-- Steps of a job until it waits. -/
def advanceAll (index : Nat) : Nat → State σ → State σ
  | 0, s => s
  | n + 1, s =>
    match advance p s index with
    | some s => advanceAll index n s
    | none => s

/-- No job takes more steps : those of its call, and those before and after it. -/
def maxTurn : Nat := Client.maxWaits + 8

/-- A turn of everyone. -/
def round (s : State σ) : State σ :=
  let s := produceAll p (5 * p.batch.workers + 8) s
  (s.jobs.map Job.index).foldl (fun s index => advanceAll p index maxTurn s) s

/-- Whether anyone but the reader can move. -/
def canMove (s : State σ) : Bool :=
  (produce p s).isSome || s.jobs.any fun j => (step p s j).isSome

/-- Rounds until nobody but the reader can move. -/
def settle : Nat → State σ → State σ
  | 0, s => s
  | n + 1, s => if canMove p s then settle n (round p s) else s

/-! ### Time -/

/-- When a job's call goes on. -/
def Job.wake? (j : Job) : Option Instant :=
  match j.work with
  | .calls _ wake _ => some wake
  | _ => none

/-- The earliest of some instants after now. -/
def earliest (now : Instant) (instants : List Instant) : Option Instant :=
  (instants.filter (now < ·)).min?

/-- A run that the caller cancels at an instant, if at any. -/
structure Bench (σ : Type) where
  state : State σ
  cancelAt : Option Instant := none

namespace Bench

/-- The time. -/
def now (b : Bench σ) : Instant :=
  b.state.scene.clock.now

/-- Everyone but the reader moves as far as possible. -/
def settled (rounds : Nat) (b : Bench σ) : Bench σ :=
  { b with state := settle p rounds b.state }

/-- When something happens next by itself, not later than `limit`. -/
def next? (b : Bench σ) (limit : Option Instant) : Option Instant :=
  earliest b.now (b.state.jobs.filterMap Job.wake? ++ b.cancelAt.toList ++ limit.toList)

/-- The run at a later time. -/
def later (b : Bench σ) (t : Instant) : Bench σ :=
  let canceled := b.state.canceled || (b.cancelAt.map (decide <| · ≤ t)).getD false
  { b with state := { b.state with scene := b.state.scene.later t, canceled } }

/-- The caller cancels the batch. -/
def cancel (b : Bench σ) : Bench σ :=
  { b with state := { b.state with canceled := true } }

/-- The run with another outlet. -/
def withOutlet (b : Bench σ) (outlet : Outlet Outcome) : Bench σ :=
  { b with state := { b.state with outlet } }

/-! ### The reader -/

/-- Read the next result. Nothing comes if everyone waits for good. -/
def pull : Nat → Bench σ → Option (Except Failure (Option Outcome)) × Bench σ
  | 0, b => (none, b)
  | n + 1, b =>
    match b.state.outlet.next with
    | some (answer, outlet) => (some answer, b.withOutlet outlet)
    | none =>
      let b := b.settled p (n + 1)
      match b.state.outlet.next with
      | some (answer, outlet) => (some answer, b.withOutlet outlet)
      | none =>
        match b.next? none with
        | some t => pull n (b.later t)
        | none => (none, b)

/-- Sleep until an instant while everyone else goes on. -/
def sleep (wake : Instant) : Nat → Bench σ → Bench σ
  | 0, b => b
  | n + 1, b =>
    let b := b.settled p (n + 1)
    if wake ≤ b.now then b
    else
      match b.next? (some wake) with
      | some t => sleep wake n (b.later t)
      | none => b

/-- Read results up to the end, or to the first failure, which comes last. -/
def stream (rounds : Nat) : Nat → Bench σ → List (Except Failure Outcome) × Bench σ
  | 0, b => ([], b)
  | n + 1, b =>
    match b.pull p rounds with
    | (some (.ok (some outcome)), b) =>
      let (rest, b) := stream rounds n b
      (.ok outcome :: rest, b)
    | (some (.error f), b) => ([.error f], b)
    | (some (.ok none), b) => ([], b)
    | (none, b) => ([], b)

end Bench

/-! ### Results in order -/

/-- All responses in the order of their indices, or the failure that ended the results. -/
def collected (results : List (Except Failure Outcome)) : Except Failure (List Response) :=
  (results.mapM id).map fun outcomes =>
    (outcomes.mergeSort fun a b => a.index ≤ b.index).map Outcome.response

/-- The values in all responses. -/
def values (shape : Shape) (results : List (Except Failure Outcome)) : Except Failure (List Json) :=
  (collected results).bind fun responses => responses.mapM (·.value shape)

end Courier.Batch
