import Courier.Authorizer
import Courier.Limiter.Quota
import Courier.Batch
import Courier.Rehearsal.Server

/-!
# The world of a rehearsal

Besides the scripted server, the world holds the limiters and the counters of the token
sources, each in a slot of its own. The functions of this module are the collaborators of
a client that lives in such a world.
-/

namespace Courier.Rehearsal

/-- Answers of a scripted limiter, which depend on the time they are given at. -/
structure Script where
  nexts : List (Instant → Except Limiter.Refusal Instant) := []
  updates : List (Instant → Except Limiter.Refusal Unit) := []
  deriving Inhabited

/-- A limiter in the world. -/
inductive Pacer where
  | quota (quota : Quota) (window : Window)
  | scripted (script : Script)
  deriving Inhabited

/-- Everything that changes during a rehearsal. -/
structure World where
  server : Server := default
  pacers : List Pacer := []
  /-- How many tokens each source has given out. -/
  counters : List Nat := []
  deriving Inhabited

/-! ### Limiters -/

namespace Pacer

/-- What is left at an instant. -/
def report (p : Pacer) (t : Instant) : Answer Empty Limiter.Report × Pacer :=
  match p with
  | .quota q w =>
    let (answer, w) := q.report w t
    (.ofOption .clockOverflow answer, .quota q w)
  | .scripted script =>
    (.ok { limit := 7, remaining := 3, reset := t + 9 * second }, .scripted script)

/-- When a call may go on. -/
def next (p : Pacer) (t : Instant) : Answer Limiter.Refusal Instant × Pacer :=
  match p with
  | .quota q w =>
    let (answer, w) := q.next w t
    (.ofOption .clockOverflow answer, .quota q w)
  | .scripted { nexts := answer :: nexts, updates } =>
    (.ofExcept (answer t), .scripted { nexts, updates })
  | .scripted script => (.ok t, .scripted script)

/-- Learn from a response. -/
def update (p : Pacer) (clock : Clock) (r : Response) : Answer Limiter.Refusal Unit × Pacer :=
  match p with
  | .quota q w =>
    match q.update w clock r.status r.headers with
    | (some answer, w) => (.ofExcept answer, .quota q w)
    | (none, w) => (.crashed .clockOverflow, .quota q w)
  | .scripted { nexts, updates := answer :: updates } =>
    (.ofExcept (answer clock.now), .scripted { nexts, updates })
  | .scripted script => (.ok (), .scripted script)

end Pacer

namespace World

/-- Use the limiter in a slot. An empty slot lets everything through. -/
def usePacer {α : Type} (slot : Nat) (idle : α) (use : Pacer → α × Pacer) (w : World) : α × World :=
  match w.pacers[slot]? with
  | none => (idle, w)
  | some p =>
    let (answer, p) := use p
    (answer, { w with pacers := w.pacers.set slot p })

/-- The limiter in a slot. -/
def limiter (slot : Nat) : Limiter World where
  report t := usePacer slot (.ok default) (·.report t)
  next t _ := usePacer slot (.ok t) (·.next t)
  update _ clock r := usePacer slot (.ok ()) (·.update clock r)

/-- The world with one more limiter, and its slot. -/
def addPacer (w : World) (p : Pacer) : Nat × World :=
  (w.pacers.length, { w with pacers := w.pacers ++ [p] })

/-- The world with one more token source, and its slot. -/
def addCounter (w : World) : Nat × World :=
  (w.counters.length, { w with counters := w.counters ++ [0] })

/-- Give out a token of the source in a slot. Its text ends in its number. -/
def countedToken (slot : Nat) (text : String) (w : World) : Answer AuthFault Token × World :=
  let n := w.counters.getD slot 0 + 1
  (.ok { text := text ++ toString n }, { w with counters := w.counters.set slot n })

/-- The transport over a link. -/
def transport (link : Link) (timeout : Duration) : Transport World := fun _ r w =>
  let (delivery, server) := w.server.deliver link timeout r
  (delivery, { w with server })

end World

/-! ### Other collaborators -/

/-- An observer that stops requests for one path, or for all. -/
structure Guard where
  veto : Option String := none
  reject : Option String := none
  crash : Option Crash := none
  path : Option String := none
  deriving Repr, Inhabited

namespace Guard

/-- Whether a guard looks at a request. -/
def concerns (g : Guard) (r : Outgoing) : Bool :=
  match g.path with
  | some path => path = r.url.pathText
  | none => true

/-- A refusal with a reason, or none. -/
def refusal (r : Outgoing) (g : Guard) (reason : Option String) : Answer Failure Unit :=
  match reason with
  | some reason => if g.concerns r then .fail (.observer reason) else .ok ()
  | none => .ok ()

/-- The observer. -/
def observer {σ : Type} (g : Guard) : Observer σ where
  willSend r s :=
    match g.crash with
    | some crash => if g.concerns r then (.crashed crash, s) else (g.refusal r g.veto, s)
    | none => (g.refusal r g.veto, s)
  didReceive r _ s := (g.refusal r g.reject, s)
  failed _ _ s := (.ok (), s)

end Guard

/-- What a scripted producer does at one index instead of giving a request. -/
inductive Mishap where
  | fails (f : Failure)
  | crashes (c : Crash)
  deriving Repr, Inhabited

/-- The producer of requests for URLs, perhaps over and over, with mishaps at some indices. -/
def producer {σ : Type} (urls : List String) (cycles : Bool) (mishaps : List (Nat × Mishap)) :
    Producer σ := fun index s =>
  match mishaps.lookup index with
  | some (.fails f) => (.fail f, s)
  | some (.crashes c) => (.crashed c, s)
  | none =>
    let place := if cycles ∧ urls ≠ [] then index % urls.length else index
    (.ok (urls[place]?.map fun target => { target }), s)

/-- What a scripted handler does about a failure. -/
inductive Action where
  | drop
  | fail
  | replace (f : Failure)
  | substitute (r : Response)
  | crash (c : Crash)
  deriving Repr, Inhabited

/-- The answer of an action about a failure. -/
def Action.answer (f : Failure) : Action → Answer Failure (Option Response)
  | .drop => .ok none
  | .fail => .fail f
  | .replace f => .fail f
  | .substitute r => .ok (some r)
  | .crash c => .crashed c

/-- The handler that acts by the status of a failure. -/
def handler {σ : Type} (actions : List (Status × Action)) (usual : Action) : Handler σ := fun f s =>
  (((f.status?.bind fun status => actions.lookup status).getD usual).answer f, s)

end Courier.Rehearsal
