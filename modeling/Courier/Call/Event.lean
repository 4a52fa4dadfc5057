import Courier.Client

/-!
# What calls do

Everything that a call does beside computing is an event : it asks its collaborators, sends
requests and traces its steps. An `Act` is a piece of a call. It changes the world in which
the collaborators live, adds events to the journal in order, and may stop short.
-/

namespace Courier

/-- Something that a call or a batch does. -/
inductive Event where
  /-- The authorizer is asked for credentials. -/
  | authorizes
  /-- The limiter is asked what is left. -/
  | asksReport
  /-- The limiter is asked when a call that came at an instant may go on. -/
  | asksNext (start : Instant)
  /-- The limiter is shown a response. -/
  | shows (status : Status)
  /-- An observer is told that a request will be sent. -/
  | willSend (observer : Nat) (request : Outgoing)
  /-- An observer is told that a request was answered. -/
  | didReceive (observer : Nat) (request : Outgoing) (status : Status)
  /-- An observer is told that a request failed. -/
  | failed (observer : Nat) (request : Outgoing) (f : Failure)
  | sends (request : Outgoing)
  | traces (t : Trace)
  /-- The producer of a batch is asked for the request at an index. -/
  | produces (index : Nat)
  /-- The handler of a batch is asked about a failure. -/
  | handles (f : Failure)
  deriving Repr, DecidableEq, Inhabited

/-- The world of the collaborators, and what has been done in it. -/
structure Journal (σ : Type) where
  world : σ
  events : List Event := []

/-- A piece of a call. -/
abbrev Act (σ α : Type) := ExceptT (Stop Failure) (StateM (Journal σ)) α

namespace Act

variable {σ α ε : Type}

/-- Add an event to the journal. -/
def record (e : Event) : Act σ Unit :=
  modify fun j => { j with events := j.events ++ [e] }

/-- Ask a collaborator, whose errors are failures of a kind. -/
def ask (ofError : ε → Failure) (f : σ → Answer ε α × σ) : Act σ α := do
  let j ← get
  let (answer, world) := f j.world
  set { j with world }
  match answer with
  | .ok a => return a
  | .error (.error e) => throw (.error (ofError e))
  | .error (.crash c) => throw (.crash c)

/-- Do something only if a condition holds. -/
def onlyIf (condition : Bool) (act : Act σ Unit) : Act σ Unit :=
  if condition then act else pure ()

/-- Stop with a failure. -/
def fail (f : Failure) : Act σ α :=
  throw (.error f)

/-- The value of a computation that may fail. -/
def ofExcept : Except Failure α → Act σ α
  | .ok a => pure a
  | .error f => fail f

/-- Do something else before stopping with a failure. A crash stops at once. -/
def beforeFailing (act : Act σ α) (last : Failure → Act σ Unit) : Act σ α :=
  tryCatch act fun stop => do
    match stop with
    | .error f => last f
    | .crash _ => pure ()
    throw stop

/-- Run a piece of a call. -/
def perform (act : Act σ α) (world : σ) : Answer Failure α × σ × List Event :=
  let (answer, j) := act.run { world }
  (answer, j.world, j.events)

end Act

end Courier
