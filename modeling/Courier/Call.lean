import Courier.Call.Event

/-!
# Calls

A call goes through stages. It resolves its request, authorizes it and adds the client's
headers ; it waits until the limiter lets it through ; it tells the observers and sends the
request ; and it sends it again, `maxRetries` times at most, when the limiter asks for that
or the status is one to retry. A response that means success is shown to the observers and
ends the call. Once the request has been on its way, observers hear of any failure in
sending it.

Between waits a call takes no time : an authorizer gives its answer and a body is read at
once. `Client.begin` takes a call to its first wait and `Client.resume` from one wait to the
next ; a call that is canceled ends at the next wait, or does not begin to wait.
-/

namespace Courier

/-- How often a request is sent again. -/
def maxRetries : Nat := 3

/-- A call under way. -/
structure Call where
  /-- Its number. -/
  id : Nat
  start : Instant
  request : Outgoing
  /-- Its steps are traced. -/
  verbose : Bool
  /-- Its headers are traced. -/
  debug : Bool
  deriving Repr, DecidableEq, Inhabited

namespace Call

/-- What a call waits for. -/
inductive Wait where
  /-- The limiter to let it through. -/
  | gate
  /-- The end of its request on its way. `attempt` counts what was sent before. -/
  | flight (attempt : Nat) (result : Except Bool Response)
  /-- Its time to try again. -/
  | pause (attempt : Nat)

/-- How far a call has come. -/
inductive Progress where
  | waits (call : Call) (wake : Instant) (wait : Wait)
  | answered (response : Response)

/-- The method and URL of a call. -/
def line (c : Call) : String :=
  c.request.method ++ " " ++ c.request.url.print

variable {σ : Type}

/-- Trace a step of a call. -/
def say (c : Call) (text : String) (elapsed : Option Duration := none) : Act σ Unit :=
  Act.record (.traces { text, call := some c.id, elapsed })

/-- Trace a step if all steps are traced. -/
def sayStep (c : Call) (text : String) : Act σ Unit :=
  Act.onlyIf c.verbose (c.say (c.line ++ ": " ++ text))

/-- Trace headers. -/
def sayHeaders (c : Call) (digest : Bytes → Bytes) (what : String) (h : Headers) : Act σ Unit :=
  c.say (what ++ " headers:\n" ++ Redaction.indent "   - " (h.sanitized digest))

/-- Trace a body that is not empty. -/
def sayBody (c : Call) (what mark : String) (body : Bytes) : Act σ Unit :=
  Act.onlyIf (body ≠ []) (c.say (what ++ " body:\n" ++ Redaction.indent mark (Utf8.lossy body)))

/-- Trace the request, with its body if all steps are traced. -/
def sayRequest (c : Call) (digest : Bytes → Bytes) : Act σ Unit := do
  c.sayHeaders digest "request" c.request.headers
  Act.onlyIf c.verbose (c.sayBody "request" "   > " (c.request.body.getD []))

/-- Trace a response, with its body if all steps are traced. A body that is traced is read for
that, so the response is put together again. -/
def sayResponse (c : Call) (digest : Bytes → Bytes) (response : Response) : Act σ Response := do
  c.sayHeaders digest "response" response.headers
  if c.verbose then
    match response.body with
    | none => Act.fail (.transport false)
    | some body =>
      c.sayBody "response" "   < " body
      return response.restored body
  else return response

/-- Trace what a limiter has left. -/
def sayReport (c : Call) (limiter : Limiter σ) : Act σ Unit := do
  Act.record .asksReport
  let report ← Act.ask Empty.elim (limiter.report c.start)
  c.sayStep ("rate limit state: limit=" ++ toString report.limit ++ ", remaining="
    ++ toString report.remaining ++ ", reset in " ++ (report.reset.since c.start).print)

/-- A limiter's refusal of a call. -/
def refused (c : Call) (r : Limiter.Refusal) : Failure :=
  .rateLimit c.id c.request.method c.request.url.print r

end Call

namespace Client

open Call (Progress Wait)

variable {σ : Type} (client : Client σ)

/-! ### Observers -/

/-- Ask the observers in order, up to the first that refuses. -/
def askObservers (event : Nat → Event) (ask : Observer σ → σ → Answer Failure Unit × σ) :
    Act σ Unit :=
  client.observers.zipIdx.forM fun (o, i) => do
    Act.record (event i)
    Act.ask id (ask o)

/-- Tell all observers of a failure. -/
def tellFailure (c : Call) (f : Failure) : Act σ Unit :=
  client.observers.zipIdx.forM fun (o, i) => do
    Act.record (.failed i c.request f)
    Act.ask Empty.elim (o.failed c.request f)

/-! ### Sending -/

/-- Send the request, unless the call is canceled. -/
def send (c : Call) (clock : Clock) (canceled : Bool) (attempt : Nat) : Act σ Progress := do
  if canceled then Act.fail .canceled
  else
    Act.record (.sends c.request)
    let delivery ← Act.ask Empty.elim fun s =>
      let (delivery, s) := client.transport clock.now c.request s
      (.ok delivery, s)
    return .waits c (clock.now.wake delivery.after) (.flight attempt delivery.result)

/-- Show the limiter a response. Gives when the request is to be sent again, if the limiter wants
that, or else another refusal. -/
def learn (c : Call) (clock : Clock) (response : Response) :
    Act σ (Option Limiter.Refusal) := do
  match client.limiter with
  | none => return none
  | some limiter =>
    Act.record (.shows response.status)
    Act.ask Empty.elim fun s =>
      match limiter.update c.start clock response s with
      | (.ok (), s) => (.ok none, s)
      | (.error (.error refusal), s) => (.ok (some refusal), s)
      | (.error (.crash crash), s) => (.error (.crash crash), s)

/-- Whether a status is tried again after so many attempts. -/
def retries (status : Status) (attempt : Nat) : Bool :=
  attempt < maxRetries ∧ !Status.isSuccess status ∧ status ∈ client.retryStatuses

/-- The delay before a status is tried again. -/
def retryDelay (attempt : Nat) : Duration :=
  client.backoff.times (attempt + 1)

/-- Put a call off before its request is sent again. -/
def putOff (c : Call) (clock : Clock) (attempt : Nat) (delay : Duration) (why : String) :
    Act σ Progress := do
  c.sayStep ("retrying after " ++ delay.print ++ why)
  return .waits c (clock.now.wake delay) (.pause attempt)

/-- Decide what a response means : the request is sent again later, or the call has its answer. -/
def settle (c : Call) (clock : Clock) (attempt : Nat) (response : Response) :
    Option Limiter.Refusal → Act σ Progress
  | some (.retry after) =>
    if attempt ≥ maxRetries then Act.fail (c.refused (.retry after))
    else putOff c clock attempt (after.since clock.now) " due to rate limits"
  | refusal =>
    if client.retries response.status attempt then
      putOff c clock attempt (client.retryDelay attempt)
        (" due to recoverable failure: " ++ Status.print response.status)
    else if !Status.isSuccess response.status then
      Act.fail (.status (StatusFailure.unexpected c.id c.request.method c.request.url.print
        response.status response.entity?))
    else
      match refusal with
      | some refusal => Act.fail (c.refused refusal)
      | none => return .answered response

/-- Show the limiter a response and decide what it means. -/
def judge (c : Call) (clock : Clock) (attempt : Nat) (response : Response) : Act σ Progress := do
  let refusal ← client.learn c clock response
  client.settle c clock attempt response refusal

/-- Decide what the end of a request on its way means. -/
def land (c : Call) (clock : Clock) (attempt : Nat) : Except Bool Response → Act σ Progress
  | .error timeout => Act.fail (.transport timeout)
  | .ok response => client.judge c clock attempt response

/-! ### Stages -/

/-- Ask the limiter when the call may go on. -/
def askNext (c : Call) : Act σ (Option Instant) := do
  match client.limiter with
  | none => return none
  | some limiter =>
    Act.onlyIf c.verbose (c.sayReport limiter)
    Act.record (.asksNext c.start)
    let next ← Act.ask c.refused (limiter.next c.start c.request)
    return some next

/-- Wait until the instant that the limiter gave, or go on at once. -/
def atGate (c : Call) (clock : Clock) (next : Option Instant) : Act σ (Option Instant) := do
  let delay := (next.map (·.since clock.now)).getD 0
  if delay = 0 then return none
  c.sayStep ("delaying " ++ delay.print ++ " for rate limits")
  return some (clock.now.wake delay)

/-- Tell the observers and the trace that the request will be sent. -/
def announce (c : Call) : Act σ Unit := do
  client.askObservers (.willSend · c.request) (·.willSend c.request)
  Act.onlyIf (c.verbose || c.debug) (c.say c.line)
  Act.onlyIf c.debug (c.sayRequest client.digest)

/-- Tell that the request will be sent, and send it for the first time. -/
def launch (c : Call) (clock : Clock) (canceled : Bool) : Act σ Progress := do
  client.announce c
  (client.send c clock canceled 0).beforeFailing (client.tellFailure c)

/-- Wait at the gate, or be launched at once. -/
def enter (c : Call) (clock : Clock) (canceled : Bool) : Option Instant → Act σ Progress
  | none => client.launch c clock canceled
  | some wake => if canceled then Act.fail .canceled else return .waits c wake .gate

/-- Finish a call that has its answer. -/
def conclude (c : Call) (now : Instant) (response : Response) : Act σ Progress := do
  Act.onlyIf (c.verbose || c.debug) <|
    c.say (c.line ++ " -> " ++ Status.print response.status ++ " (" ++ response.sizeText ++ ")")
      (some (now.since c.start))
  let response ← (if c.debug then c.sayResponse client.digest response else pure response :
    Act σ Response)
  client.askObservers (.didReceive · c.request response.status) (·.didReceive c.request response)
  return .answered response

/-- Resolve and authorize a request and add the client's headers. -/
def prepare (id : Nat) (request : Request) (clock : Clock) : Act σ Call := do
  let resolved ← Act.ofExcept (request.resolve client.base)
  let verbose := client.tracing.followsSteps resolved.url
  let debug := client.tracing.showsHeaders resolved.url
  let authorized ← match client.authorizer with
    | none => pure resolved
    | some authorizer =>
      Act.record .authorizes
      Act.ask .authorization (authorizer resolved)
  let outgoing := { authorized with headers := authorized.headers.withDefaults client.headers }
  return { id, start := clock.now, request := outgoing, verbose, debug }

/-- Begin a call and take it to its first wait. -/
def begin (id : Nat) (request : Request) (clock : Clock) (canceled : Bool) : Act σ Progress := do
  let c ← client.prepare id request clock
  let next ← client.askNext c
  let wake ← atGate c clock next
  client.enter c clock canceled wake

/-- Take a call from the end of a wait, or from the moment it is canceled, to its next wait. -/
def resume (c : Call) (wait : Wait) (clock : Clock) (canceled : Bool) : Act σ Progress := do
  match wait with
  | .gate => if canceled then Act.fail .canceled else client.launch c clock canceled
  | .pause attempt =>
    (client.send c clock canceled (attempt + 1)).beforeFailing (client.tellFailure c)
  | .flight attempt result =>
    let landed := if canceled then Act.fail .canceled else client.land c clock attempt result
    match ← landed.beforeFailing (client.tellFailure c) with
    | .answered response => client.conclude c clock.now response
    | progress => return progress

end Client

end Courier
