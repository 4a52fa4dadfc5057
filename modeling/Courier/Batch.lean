import Courier.Batch.Outlet
import Courier.Call.Run
import Courier.Producer

/-!
# Batches

A batch makes many calls through one client. A producer gives the requests ; each becomes a
job as soon as one of `workers` is free, and the responses leave through an outlet in the
order in which they come. A handler may save a failed job by another response, or drop it.
The first failure that is not saved stops the batch and becomes the cause of the outlet.

A batch is a system of agents that share a state : the production of jobs, the jobs
themselves, the reader of the outlet and the caller, who may cancel it. `produce` and
`advance` take one step of the production or of a job, unless it has to wait. What the
agents do together is any sequence of such steps.
-/

namespace Courier

/-- Something that may save a failed job by a response, drop it, or fail. -/
abbrev Handler (σ : Type) := Failure → σ → Answer Failure (Option Response) × σ

/-- How batches go. -/
structure Batch (σ : Type) where
  client : Client σ
  workers : Nat
  handler : Option (Handler σ) := none
  verbose : Bool := false
  debug : Bool := false

/-- What one run of a batch has of its own. -/
structure Batch.Settings (σ : Type) where
  /-- A handler in place of the batch's. -/
  handler : Option (Handler σ) := none
  /-- Headers for all requests, in place of theirs. -/
  headers : Headers := {}

namespace Batch

/-- A result of a job. -/
structure Outcome where
  index : Nat
  response : Response
  deriving Repr, DecidableEq, Inhabited

/-- What the production of jobs does next. -/
inductive Production where
  /-- It looks whether the batch is to go on. -/
  | checks (index : Nat)
  /-- It asks for a request. -/
  | asks (index : Nat)
  /-- It has a request and looks whether the batch was stopped. -/
  | offers (index : Nat) (request : Request)
  /-- It takes a worker, if one is free. -/
  | claims (index : Nat) (request : Request)
  /-- It waits until a worker is free or the batch is stopped, and looks again then. -/
  | queues (index : Nat) (request : Request)
  /-- It has a worker and adds the job. -/
  | adds (index : Nat) (request : Request)
  /-- It waits for all jobs to be done. -/
  | drains
  | over

/-- What a job does next. -/
inductive Work where
  | begins
  | calls (call : Call) (wake : Instant) (wait : Call.Wait)
  /-- It asks the handler about its failure. -/
  | handles (f : Failure)
  | answers (response : Response)
  | delivers (response : Response)
  /-- It fails for good. -/
  | fails (f : Failure)
  /-- It reports the first failure. -/
  | reports (f : Failure)
  /-- It stops the batch. -/
  | stops
  | leaves

/-- A request that has a worker. -/
structure Job where
  index : Nat
  request : Request
  start : Instant
  work : Work := .begins

/-- The state that the agents of a batch share. -/
structure State (σ : Type) where
  scene : Scene σ
  production : Production := .checks 0
  jobs : List Job := []
  outlet : Outlet Outcome
  /-- A job that failed has stopped the batch. -/
  stopped : Bool := false
  /-- There has been a failure. -/
  failed : Bool := false
  /-- The caller has canceled the batch. -/
  canceled : Bool := false
  /-- How many calls were begun. -/
  calls : Nat := 0

/-- A run of a batch. -/
structure Plan (σ : Type) where
  batch : Batch σ
  settings : Settings σ := {}
  producer : Producer σ

variable {σ : Type}

/-- The batch of a client in an environment. -/
def ofClient (client : Client σ) (workers : Nat) (env : Environment) : Batch σ :=
  { client
    workers := max workers 1
    verbose := env.flag "VERBOSE_API_MUX"
    debug := env.flag "DEBUG_API_MUX" }

/-- A batch for diagnostics. -/
def describe (b : Batch σ) : String :=
  Text.record "Mux" [
    ("client", b.client.describe),
    ("concurrency", toString b.workers),
    ("error_handler", Text.truth b.handler.isSome),
    ("verbose", Text.truth b.verbose),
    ("debug", Text.truth b.debug)]

/-- How many jobs have a worker at one time. -/
def places (b : Batch σ) : Nat :=
  min b.workers (Nat.pow 2 32 - 1)

/-- The settings of a run for diagnostics. -/
def Settings.describe (s : Settings σ) : String :=
  Text.record "MuxOptions" [
    ("error_handler", Text.truth s.handler.isSome),
    ("headers", Text.list (s.headers.names.map fun n => Text.quoted n.text))]

/-- The handler of a run. -/
def Plan.handler (p : Plan σ) : Option (Handler σ) :=
  p.settings.handler <|> p.batch.handler

/-- The state in which a run begins. -/
def Plan.start (p : Plan σ) (scene : Scene σ) (canceled : Bool) : State σ :=
  { scene, outlet := .ofCapacity p.batch.workers, canceled }

/-- The state in which a run begins, or the crash that it begins with : no outlet is made for
more workers than it can hold results of. -/
def Plan.launch (p : Plan σ) (scene : Scene σ) (canceled : Bool) : Except Crash (State σ) :=
  if p.batch.workers ≤ Outlet.maxCapacity then .ok (p.start scene canceled)
  else .error Outlet.oversized

namespace State

/-- The state after a piece of work in the world. -/
def act {α : Type} (s : State σ) (a : Act σ α) : Answer Failure α × State σ :=
  let (answer, scene) := s.scene.perform a
  (answer, { s with scene })

/-- The job at an index. -/
def job? (s : State σ) (index : Nat) : Option Job :=
  s.jobs.find? fun j => j.index = index

/-- Give the job at an index other work. -/
def setWork (s : State σ) (index : Nat) (work : Work) : State σ :=
  { s with jobs := s.jobs.map fun j => if j.index = index then { j with work } else j }

/-- The state with one more job, which may write to the outlet. -/
def addJob (s : State σ) (index : Nat) (request : Request) : State σ :=
  { s with
    jobs := s.jobs ++ [{ index, request, start := s.scene.clock.now }]
    outlet := s.outlet.addWriter }

/-- The state without the job at an index. -/
def dropJob (s : State σ) (index : Nat) : State σ :=
  { s with jobs := s.jobs.filter (·.index ≠ index), outlet := s.outlet.dropWriter }

/-- Whether a worker is free. -/
def isFree (p : Plan σ) (s : State σ) : Bool :=
  s.jobs.length < p.batch.places

/-- The state after the end of production. -/
def endProduction (s : State σ) : State σ :=
  { s with production := .over, outlet := s.outlet.dropWriter }

end State

/-! ### Production -/

/-- One step of production. -/
def produce (p : Plan σ) (s : State σ) : Option (State σ) :=
  match s.production with
  | .checks index =>
    let goesOn := !s.canceled && !s.outlet.refuses
    some { s with production := if goesOn then .asks index else .drains }
  | .asks index =>
    let (answer, s) := s.act do
      Act.record (.produces index)
      Act.ask id (p.producer index)
    match answer with
    | .ok none => some { s with production := .drains }
    | .ok (some r) => some { s with production := .offers index (r.configure p.settings.headers) }
    | .error (.error f) =>
      some { s with production := .drains, outlet := s.outlet.cancel (.producer index f) }
    | .error (.crash _) => some s.endProduction
  | .offers index request =>
    some { s with
      production := if s.stopped || s.canceled then .drains else .claims index request }
  | .claims index request =>
    -- Nobody looks again whether the batch was stopped meanwhile.
    some { s with
      production := if s.isFree p then .adds index request else .queues index request }
  | .queues index request =>
    if s.stopped || s.canceled then some { s with production := .drains }
    else if s.isFree p then some { s with production := .claims index request }
    else none
  | .adds index request => some { s.addJob index request with production := .checks (index + 1) }
  | .drains =>
    if s.jobs.isEmpty then
      let outlet := if !s.failed && s.canceled then s.outlet.cancel .canceled else s.outlet
      some { s with outlet }.endProduction
    else none
  | .over => none

/-! ### Jobs -/

/-- The work after a piece of a call. -/
def Work.ofProgress : Answer Failure Call.Progress → Work
  | .ok (.waits call wake wait) => .calls call wake wait
  | .ok (.answered response) => .answers response
  | .error (.error f) => .handles f
  | .error (.crash c) => .fails (.crashed (c.message.getD "unknown panic"))

/-- The work after the handler's answer about a job. -/
def Work.ofHandled (index : Nat) : Answer Failure (Option Response) → Work
  | .ok (some response) => .answers response
  | .ok none => .leaves
  | .error (.error f) => .fails (.multiplex index f)
  | .error (.crash c) => .fails (.crashed (c.message.getD "unknown panic"))

/-- Trace a step of a job. -/
def Job.say (j : Job) (mark tail : String) (elapsed : Option Duration) : Act σ Unit :=
  Act.record (.traces
    { text := mark ++ " " ++ j.request.method ++ " " ++ j.request.target ++ tail
      index := some j.index
      elapsed })

/-- The first piece of a job's call. -/
def Job.begin (p : Plan σ) (s : State σ) (j : Job) : Act σ Call.Progress := do
  Act.onlyIf (p.batch.debug && p.batch.verbose) (j.say ">>>" "" none)
  p.batch.client.begin (s.calls + 1) j.request s.scene.clock s.canceled

/-- The next piece of a job's call. -/
def resumed (p : Plan σ) (s : State σ) (call : Call) (wait : Call.Wait) : Act σ Call.Progress :=
  p.batch.client.resume call wait s.scene.clock s.canceled

/-- One step of a job. -/
def step (p : Plan σ) (s : State σ) (j : Job) : Option (State σ) :=
  match j.work with
  | .begins =>
    let (progress, s) := s.act (j.begin p s)
    some ({ s with calls := s.calls + 1 }.setWork j.index (.ofProgress progress))
  | .calls call wake wait =>
    if s.canceled || decide (wake ≤ s.scene.clock.now) then
      let (progress, s) := s.act (resumed p s call wait)
      some (s.setWork j.index (.ofProgress progress))
    else none
  | .handles f =>
    match p.handler with
    | none => some (s.setWork j.index (.fails (.multiplex j.index f)))
    | some handler =>
      let (answer, s) := s.act do
        Act.record (.handles f)
        Act.ask id (handler f)
      some (s.setWork j.index (.ofHandled j.index answer))
  | .answers response =>
    let (_, s) := s.act <| Act.onlyIf p.batch.debug <|
      j.say "<<<" (": " ++ Status.print response.status) (some (s.scene.clock.now.since j.start))
    some (s.setWork j.index (.delivers response))
  | .delivers response =>
    match s.outlet.write ⟨j.index, response⟩ with
    | none => none
    | some (.ok (), outlet) => some ({ s with outlet }.setWork j.index .leaves)
    | some (.error f, outlet) => some ({ s with outlet }.setWork j.index (.fails f))
  | .fails f =>
    if s.failed then some (s.setWork j.index .stops)
    else some ({ s with failed := true }.setWork j.index (.reports f))
  | .reports f =>
    let (_, s) := s.act do
      Act.record (.traces
        { text := "dispatcher stopped by failed unit"
          error := some (f.message s.scene.clock.now) })
    some ({ s with outlet := s.outlet.cancel f }.setWork j.index .stops)
  | .stops => some ({ s with stopped := true }.setWork j.index .leaves)
  | .leaves => some (s.dropJob j.index)

/-- One step of the job at an index. -/
def advance (p : Plan σ) (s : State σ) (index : Nat) : Option (State σ) :=
  (s.job? index).bind (step p s)

end Batch

end Courier
