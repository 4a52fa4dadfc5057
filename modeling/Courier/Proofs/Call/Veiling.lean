import Courier.Proofs.Call.Chronicle
import Courier.Proofs.Call.Lockstep
import Courier.Proofs.Header.Veil

/-!
# Calls that only secrets tell apart

Two clients are veiled from each other if only secrets in headers tell them and their collaborators
apart (`Client.Veils`) : the credentials in any header map, and what is marked as sensitive in the
headers of clients and requests and by authorizers. A secret stands for another one of the same
length with the same digest. That the collaborators answer alike is part of what is compared.

Each piece of a call mirrors the same piece of the other client's call. So calls that begin with
veiled requests end with the same failure or with veiled responses, and do the same at the same
times but for the secrets of what they send and show (`Client.Veils.run`).
-/

namespace Courier

/-! ## What only secrets tell apart -/

/-- Requests with veiled headers. -/
structure Request.Veiled (digest : Bytes → Bytes) (r r' : Request) : Prop where
  method : r.method = r'.method
  target : r.target = r'.target
  headers : r.headers.Veiled digest Redaction.isSecret r'.headers
  body : r.body = r'.body

/-- Requests on their way with veiled headers. -/
structure Outgoing.Veiled (digest : Bytes → Bytes) (r r' : Outgoing) : Prop where
  method : r.method = r'.method
  url : r.url = r'.url
  headers : r.headers.Veiled digest Redaction.isSecret r'.headers
  body : r.body = r'.body

/-- Responses with veiled headers. Only credentials are secrets of a response. -/
structure Response.Veiled (digest : Bytes → Bytes) (r r' : Response) : Prop where
  status : r.status = r'.status
  url : r.url = r'.url
  headers : r.headers.Veiled digest Redaction.isCredential r'.headers
  body : r.body = r'.body
  size : r.size = r'.size

/-- Ends of requests on their way, with the same fault or veiled responses. -/
inductive Delivery.ResultVeiled (digest : Bytes → Bytes) :
    Except Bool Response → Except Bool Response → Prop where
  | error (timeout : Bool) : ResultVeiled digest (.error timeout) (.error timeout)
  | ok {r r' : Response} (h : r.Veiled digest r') : ResultVeiled digest (.ok r) (.ok r')

/-- Events that do the same, with veiled requests. -/
inductive Event.Veiled (digest : Bytes → Bytes) : Event → Event → Prop where
  | same (e : Event) : Veiled digest e e
  | willSend (i : Nat) {r r' : Outgoing} (h : r.Veiled digest r') :
      Veiled digest (.willSend i r) (.willSend i r')
  | didReceive (i : Nat) {r r' : Outgoing} (h : r.Veiled digest r') (status : Status) :
      Veiled digest (.didReceive i r status) (.didReceive i r' status)
  | failed (i : Nat) {r r' : Outgoing} (h : r.Veiled digest r') (f : Failure) :
      Veiled digest (.failed i r f) (.failed i r' f)
  | sends {r r' : Outgoing} (h : r.Veiled digest r') : Veiled digest (.sends r) (.sends r')

/-- Calls that only the secrets of their requests tell apart. -/
structure Call.Veiled (digest : Bytes → Bytes) (c c' : Call) : Prop where
  id : c.id = c'.id
  start : c.start = c'.start
  request : c.request.Veiled digest c'.request
  verbose : c.verbose = c'.verbose
  debug : c.debug = c'.debug

/-- Calls wait for the same, with veiled responses. -/
inductive Call.Wait.Veiled (digest : Bytes → Bytes) : Call.Wait → Call.Wait → Prop where
  | gate : Veiled digest .gate .gate
  | flight (attempt : Nat) {result result' : Except Bool Response}
      (h : Delivery.ResultVeiled digest result result') :
      Veiled digest (.flight attempt result) (.flight attempt result')
  | pause (attempt : Nat) : Veiled digest (.pause attempt) (.pause attempt)

/-- Calls have come equally far. -/
inductive Call.Progress.Veiled (digest : Bytes → Bytes) : Call.Progress → Call.Progress → Prop where
  | waits {c c' : Call} {wait wait' : Call.Wait} (hcalls : c.Veiled digest c') (wake : Instant)
      (hwait : wait.Veiled digest wait') :
      Veiled digest (.waits c wake wait) (.waits c' wake wait')
  | answered {r r' : Response} (h : r.Veiled digest r') :
      Veiled digest (.answered r) (.answered r')

/-! ## Collaborators -/

section Collaborators

variable {σ : Type} (digest : Bytes → Bytes) (W : σ → σ → Prop)

/-- Authorizers that make veiled requests of veiled requests. -/
def Authorizer.Veils (a a' : Authorizer σ) : Prop :=
  ∀ r r', r.Veiled digest r' → AnswerAlike W (Outgoing.Veiled digest) (a r) (a' r')

/-- Limiters that answer the same to veiled requests and responses. -/
structure Limiter.Veils (l l' : Limiter σ) : Prop where
  report : ∀ now, AnswerAlike W Eq (l.report now) (l'.report now)
  next : ∀ now r r', r.Veiled digest r' → AnswerAlike W Eq (l.next now r) (l'.next now r')
  update : ∀ start clock r r', r.Veiled digest r' →
    AnswerAlike W Eq (l.update start clock r) (l'.update start clock r')

/-- Observers that answer the same to veiled requests and responses. -/
structure Observer.Veils (o o' : Observer σ) : Prop where
  willSend : ∀ r r', r.Veiled digest r' → AnswerAlike W Eq (o.willSend r) (o'.willSend r')
  didReceive : ∀ r r' response response', r.Veiled digest r' → response.Veiled digest response' →
    AnswerAlike W Eq (o.didReceive r response) (o'.didReceive r' response')
  failed : ∀ r r' f, r.Veiled digest r' → AnswerAlike W Eq (o.failed r f) (o'.failed r' f)

/-- Transports that answer veiled requests after the same time with veiled responses. -/
def Transport.Veils (t t' : Transport σ) : Prop :=
  ∀ now r r' w w', r.Veiled digest r' → W w w' →
    (t now r w).1.after = (t' now r' w').1.after ∧
      Delivery.ResultVeiled digest (t now r w).1.result (t' now r' w').1.result ∧
        W (t now r w).2 (t' now r' w').2

/-- Clients that only secrets in headers tell apart, with collaborators that answer alike in
related worlds. -/
structure Client.Veils (client client' : Client σ) : Prop where
  digest : client.digest = client'.digest
  base : client.base = client'.base
  authorizer : Option.Rel (Authorizer.Veils client.digest W) client.authorizer client'.authorizer
  limiter : Option.Rel (Limiter.Veils client.digest W) client.limiter client'.limiter
  observers : List.Forall₂ (Observer.Veils client.digest W) client.observers client'.observers
  transport : Transport.Veils client.digest W client.transport client'.transport
  retryStatuses : client.retryStatuses = client'.retryStatuses
  backoff : client.backoff = client'.backoff
  headers : client.headers.Veiled client.digest Redaction.isSecret client'.headers
  contentType : client.contentType = client'.contentType
  tracing : client.tracing = client'.tracing

end Collaborators

/-! ## What is shown of requests and responses -/

variable {digest : Bytes → Bytes}

namespace Response.Veiled

variable {r r' : Response}

theorem entity?_eq (h : r.Veiled digest r') : r.entity? = r'.entity? := by
  have htype : r.headers.first? Header.contentType = r'.headers.first? Header.contentType :=
    h.headers.first?_eq fun _ => rfl
  simp only [entity?, contentType, htype, h.body]

theorem sanitized_eq (h : r.Veiled digest r') :
    r.headers.sanitized digest = r'.headers.sanitized digest := by
  refine (h.headers.mono fun n v hv => ?_).sanitized_eq
  unfold Redaction.isSecret
  rw [show decide (n ∈ Redaction.credentialNames) = true from hv, Bool.true_or]

theorem restored (h : r.Veiled digest r') (body : Bytes) :
    (r.restored body).Veiled digest (r'.restored body) :=
  ⟨h.status, h.url, h.headers, rfl, rfl⟩

end Response.Veiled

namespace Call.Veiled

variable {σ : Type} {W : σ → σ → Prop} {c c' : Call}

theorem line_eq (h : c.Veiled digest c') : c.line = c'.line := by
  simp only [line, h.request.method, h.request.url]

theorem refused_eq (h : c.Veiled digest c') : c.refused = c'.refused := by
  funext r
  simp only [refused, h.id, h.request.method, h.request.url]

theorem say (h : c.Veiled digest c') (text : String) (elapsed : Option Duration) :
    (c.say text elapsed).Mirrors W (Event.Veiled digest) (c'.say text elapsed) fun _ _ => True := by
  unfold Call.say
  rw [h.id]
  exact Act.mirrors_record (.same _)

theorem sayStep (h : c.Veiled digest c') (text : String) :
    (c.sayStep text).Mirrors W (Event.Veiled digest) (c'.sayStep text) fun _ _ => True := by
  unfold Call.sayStep
  rw [h.verbose, h.line_eq]
  exact Act.mirrors_onlyIf (h.say _ _)

theorem sayBody (h : c.Veiled digest c') (what mark : String) (body : Bytes) :
    (c.sayBody what mark body).Mirrors W (Event.Veiled digest) (c'.sayBody what mark body)
      fun _ _ => True :=
  Act.mirrors_onlyIf (h.say _ _)

/-- Dumps of header maps that show the same are the same. -/
theorem sayHeaders (h : c.Veiled digest c') (what : String) {headers headers' : Headers}
    (hshown : headers.sanitized digest = headers'.sanitized digest) :
    (c.sayHeaders digest what headers).Mirrors W (Event.Veiled digest)
      (c'.sayHeaders digest what headers') fun _ _ => True := by
  unfold Call.sayHeaders
  rw [hshown]
  exact h.say _ _

theorem sayRequest (h : c.Veiled digest c') :
    (c.sayRequest digest).Mirrors W (Event.Veiled digest) (c'.sayRequest digest)
      fun _ _ => True := by
  unfold Call.sayRequest
  rw [h.verbose, h.request.body]
  exact (h.sayHeaders "request" h.request.headers.sanitized_eq).bind fun _ _ _ =>
    Act.mirrors_onlyIf (h.sayBody _ _ _)

theorem sayResponse (h : c.Veiled digest c') {response response' : Response}
    (hresponse : response.Veiled digest response') :
    (c.sayResponse digest response).Mirrors W (Event.Veiled digest)
      (c'.sayResponse digest response') (Response.Veiled digest) := by
  unfold Call.sayResponse
  rw [h.verbose, hresponse.body]
  refine (h.sayHeaders "response" hresponse.sanitized_eq).bind fun _ _ _ => ?_
  refine Act.mirrors_ite (fun _ => ?_) fun _ => Act.mirrors_pure hresponse
  cases response'.body with
  | none => exact Act.mirrors_throw _
  | some body =>
    exact (h.sayBody _ _ body).bind fun _ _ _ => Act.mirrors_pure (hresponse.restored body)

theorem sayReport (h : c.Veiled digest c') {limiter limiter' : Limiter σ}
    (hlimiters : limiter.Veils digest W limiter') :
    (c.sayReport limiter).Mirrors W (Event.Veiled digest) (c'.sayReport limiter')
      fun _ _ => True := by
  unfold Call.sayReport
  rw [h.start]
  refine (Act.mirrors_record (.same _)).bind fun _ _ _ => ?_
  refine (Act.mirrors_ask _ (hlimiters.report _)).bind fun report report' hreports => ?_
  obtain rfl := hreports
  exact h.sayStep _

end Call.Veiled

/-! ## Pieces of calls -/

namespace Client.Veils

open Call (Progress Wait)

variable {σ : Type} {W : σ → σ → Prop} {client client' : Client σ} {c c' : Call}

theorem observers_numbered (h : client.Veils W client') :
    List.Forall₂ (fun o o' => o.1.Veils client.digest W o'.1 ∧ o.2 = o'.2)
      client.observers.zipIdx client'.observers.zipIdx := by
  have hobservers := h.observers
  revert hobservers
  generalize client.observers = l, client'.observers = l', 0 = start
  intro hobservers
  induction hobservers generalizing start with
  | nil => exact .nil
  | cons ho _ ih => exact .cons ⟨ho, rfl⟩ (ih _)

/-- What is done with each observer in turn mirrors what is done with those of the other client. -/
theorem forObservers (h : client.Veils W client') {f f' : Observer σ × Nat → Act σ Unit}
    (hf : ∀ o o' i, o.Veils client.digest W o' →
      (f (o, i)).Mirrors W (Event.Veiled client.digest) (f' (o', i)) Eq) :
    (client.observers.zipIdx.forM f).Mirrors W (Event.Veiled client.digest)
      (client'.observers.zipIdx.forM f') fun _ _ => True := by
  refine Act.mirrors_forM h.observers_numbered ?_
  rintro ⟨o, i⟩ ⟨o', i'⟩ ⟨ho, hi⟩
  obtain rfl : i = i' := hi
  exact (hf o o' i ho).mono fun _ _ _ => trivial

theorem askObservers (h : client.Veils W client') {event event' : Nat → Event}
    {ask ask' : Observer σ → σ → Answer Failure Unit × σ}
    (hevent : ∀ i, (event i).Veiled client.digest (event' i))
    (hask : ∀ o o', o.Veils client.digest W o' → AnswerAlike W Eq (ask o) (ask' o')) :
    (client.askObservers event ask).Mirrors W (Event.Veiled client.digest)
      (client'.askObservers event' ask') fun _ _ => True :=
  h.forObservers fun o o' i ho => Act.mirrors_record_ask (hevent i) id (hask o o' ho)

theorem tellFailure (h : client.Veils W client') (hcalls : c.Veiled client.digest c')
    (f : Failure) :
    (client.tellFailure c f).Mirrors W (Event.Veiled client.digest) (client'.tellFailure c' f)
      fun _ _ => True :=
  h.forObservers fun _ _ i ho =>
    Act.mirrors_record_ask (.failed i hcalls.request f) _ (ho.failed _ _ f hcalls.request)

theorem send (h : client.Veils W client') (hcalls : c.Veiled client.digest c') (clock : Clock)
    (canceled : Bool) (attempt : Nat) :
    (client.send c clock canceled attempt).Mirrors W (Event.Veiled client.digest)
      (client'.send c' clock canceled attempt) (Progress.Veiled client.digest) := by
  refine Act.mirrors_ite (fun _ => Act.mirrors_throw _) fun _ => ?_
  refine (Act.mirrors_record (.sends hcalls.request)).bind fun _ _ _ => ?_
  have hdelivered : AnswerAlike W
      (fun d d' => d.after = d'.after ∧ Delivery.ResultVeiled client.digest d.result d'.result)
      (fun w => (.ok (client.transport clock.now c.request w).1,
        (client.transport clock.now c.request w).2))
      (fun w => ((.ok (client'.transport clock.now c'.request w).1 : Answer Empty Delivery),
        (client'.transport clock.now c'.request w).2)) := by
    intro w w' hw
    obtain ⟨hafter, hresult, hworld⟩ := h.transport clock.now _ _ w w' hcalls.request hw
    exact ⟨.ok ⟨hafter, hresult⟩, hworld⟩
  refine (Act.mirrors_ask _ hdelivered).bind fun delivery delivery' hdelivery => ?_
  obtain ⟨hafter, hresult⟩ := hdelivery
  rw [hafter]
  exact Act.mirrors_pure (.waits hcalls _ (.flight attempt hresult))

theorem learn (h : client.Veils W client') (hcalls : c.Veiled client.digest c') (clock : Clock)
    {response response' : Response}
    (hresponse : response.Veiled client.digest response') :
    (client.learn c clock response).Mirrors W (Event.Veiled client.digest)
      (client'.learn c' clock response') Eq := by
  have hlimiters := h.limiter
  unfold Client.learn
  revert hlimiters
  generalize client.limiter = limiter, client'.limiter = limiter'
  rintro (@⟨limiter, limiter', hlimiter⟩ | -)
  · rw [hresponse.status, ← hcalls.start]
    refine (Act.mirrors_record (.same _)).bind fun _ _ _ => Act.mirrors_ask _ fun w w' hw => ?_
    obtain ⟨hanswer, hworld⟩ := hlimiter.update c.start clock _ _ hresponse w w' hw
    revert hanswer hworld
    generalize limiter.update c.start clock response w = said,
      limiter'.update c.start clock response' w' = said'
    obtain ⟨answer, v⟩ := said
    obtain ⟨answer', v'⟩ := said'
    rintro (⟨⟨⟩⟩ | (refusal | crash)) hworld
    · exact ⟨.ok rfl, hworld⟩
    · exact ⟨.ok rfl, hworld⟩
    · exact ⟨.error _, hworld⟩
  · exact Act.mirrors_pure rfl

theorem putOff (hcalls : c.Veiled digest c') (clock : Clock) (attempt : Nat) (delay : Duration)
    (why : String) :
    (putOff c clock attempt delay why : Act σ Progress).Mirrors W (Event.Veiled digest)
      (Client.putOff c' clock attempt delay why) (Progress.Veiled digest) :=
  (hcalls.sayStep _).bind fun _ _ _ => Act.mirrors_pure (.waits hcalls _ (.pause attempt))

theorem settle (h : client.Veils W client') (hcalls : c.Veiled client.digest c') (clock : Clock)
    (attempt : Nat) {response response' : Response}
    (hresponse : response.Veiled client.digest response') (refusal : Option Limiter.Refusal) :
    (client.settle c clock attempt response refusal).Mirrors W (Event.Veiled client.digest)
      (client'.settle c' clock attempt response' refusal) (Progress.Veiled client.digest) := by
  have hretries : client.retries response'.status attempt =
      client'.retries response'.status attempt := by
    simp only [Client.retries, h.retryStatuses]
  have hdelay : client.retryDelay attempt = client'.retryDelay attempt := by
    simp only [Client.retryDelay, h.backoff]
  unfold Client.settle
  rw [hcalls.refused_eq, hresponse.status, hretries, hdelay, hresponse.entity?_eq, hcalls.id,
    hcalls.request.method, hcalls.request.url]
  split
  · exact Act.mirrors_ite (fun _ => Act.mirrors_throw _) fun _ => putOff hcalls _ _ _ _
  · refine Act.mirrors_ite (fun _ => putOff hcalls _ _ _ _) fun _ => ?_
    refine Act.mirrors_ite (fun _ => Act.mirrors_throw _) fun _ => ?_
    split
    · exact Act.mirrors_throw _
    · exact Act.mirrors_pure (.answered hresponse)

theorem land (h : client.Veils W client') (hcalls : c.Veiled client.digest c') (clock : Clock)
    (attempt : Nat) {result result' : Except Bool Response}
    (hresult : Delivery.ResultVeiled client.digest result result') :
    (client.land c clock attempt result).Mirrors W (Event.Veiled client.digest)
      (client'.land c' clock attempt result') (Progress.Veiled client.digest) := by
  cases hresult with
  | error timeout => exact Act.mirrors_throw _
  | ok hresponse =>
    refine (h.learn hcalls clock hresponse).bind fun refusal refusal' hrefusals => ?_
    obtain rfl := hrefusals
    exact h.settle hcalls clock attempt hresponse refusal

/-! ## Stages of calls -/

theorem prepare (h : client.Veils W client') (id : Nat) {request request' : Request}
    (hrequest : request.Veiled client.digest request') (clock : Clock) :
    (client.prepare id request clock).Mirrors W (Event.Veiled client.digest)
      (client'.prepare id request' clock) (Call.Veiled client.digest) := by
  have hresolved : (Act.ofExcept (request.resolve client.base) : Act σ Outgoing).Mirrors W
      (Event.Veiled client.digest) (Act.ofExcept (request'.resolve client'.base))
      (Outgoing.Veiled client.digest) := by
    unfold Request.resolve
    rw [h.base, hrequest.target]
    cases Request.resolveUrl client'.base request'.target with
    | error f => exact Act.mirrors_throw _
    | ok url => exact Act.mirrors_pure ⟨hrequest.method, rfl, hrequest.headers, hrequest.body⟩
  refine hresolved.bind fun resolved resolved' hresolved => ?_
  have hprepared {r r' : Outgoing} (hr : r.Veiled client.digest r') :
      (pure { id, start := clock.now,
              request := { r with headers := r.headers.withDefaults client.headers },
              verbose := client.tracing.followsSteps resolved.url,
              debug := client.tracing.showsHeaders resolved.url } : Act σ Call).Mirrors W
        (Event.Veiled client.digest)
        (pure { id, start := clock.now,
                request := { r' with headers := r'.headers.withDefaults client'.headers },
                verbose := client'.tracing.followsSteps resolved'.url,
                debug := client'.tracing.showsHeaders resolved'.url })
        (Call.Veiled client.digest) := by
    rw [h.tracing, hresolved.url]
    exact Act.mirrors_pure ⟨rfl, rfl,
      ⟨hr.method, hr.url, hr.headers.withDefaults h.headers, hr.body⟩, rfl, rfl⟩
  have hauthorizers := h.authorizer
  revert hauthorizers
  generalize client.authorizer = authorizer, client'.authorizer = authorizer'
  rintro (@⟨authorizer, authorizer', hauthorizer⟩ | -)
  · refine (Act.mirrors_record (.same _)).bind fun _ _ _ => ?_
    exact (Act.mirrors_ask _ (hauthorizer _ _ hresolved)).bind fun _ _ => hprepared
  · exact (Act.mirrors_pure hresolved).bind fun _ _ => hprepared

theorem askNext (h : client.Veils W client') (hcalls : c.Veiled client.digest c') :
    (client.askNext c).Mirrors W (Event.Veiled client.digest) (client'.askNext c') Eq := by
  have hlimiters := h.limiter
  unfold Client.askNext
  rw [hcalls.verbose, hcalls.start, hcalls.refused_eq]
  revert hlimiters
  generalize client.limiter = limiter, client'.limiter = limiter'
  rintro (@⟨limiter, limiter', hlimiter⟩ | -)
  · refine (Act.mirrors_onlyIf (hcalls.sayReport hlimiter)).bind fun _ _ _ => ?_
    refine (Act.mirrors_record (.same _)).bind fun _ _ _ => ?_
    refine (Act.mirrors_ask _ (hlimiter.next _ _ _ hcalls.request)).bind fun _ _ hnext => ?_
    exact Act.mirrors_pure (congrArg some hnext)
  · exact Act.mirrors_pure rfl

theorem atGate (hcalls : c.Veiled digest c') (clock : Clock) (next : Option Instant) :
    (Client.atGate c clock next : Act σ (Option Instant)).Mirrors W (Event.Veiled digest)
      (Client.atGate c' clock next) Eq :=
  Act.mirrors_ite (fun _ => Act.mirrors_pure rfl) fun _ =>
    (hcalls.sayStep _).bind fun _ _ _ => Act.mirrors_pure rfl

theorem announce (h : client.Veils W client') (hcalls : c.Veiled client.digest c') :
    (client.announce c).Mirrors W (Event.Veiled client.digest) (client'.announce c')
      fun _ _ => True := by
  unfold Client.announce
  rw [hcalls.verbose, hcalls.debug, hcalls.line_eq, ← h.digest]
  refine (h.askObservers (fun i => .willSend i hcalls.request) fun _ _ ho =>
    ho.willSend _ _ hcalls.request).bind fun _ _ _ => ?_
  exact (Act.mirrors_onlyIf (hcalls.say _ _)).bind fun _ _ _ =>
    Act.mirrors_onlyIf hcalls.sayRequest

theorem launch (h : client.Veils W client') (hcalls : c.Veiled client.digest c') (clock : Clock)
    (canceled : Bool) :
    (client.launch c clock canceled).Mirrors W (Event.Veiled client.digest)
      (client'.launch c' clock canceled) (Progress.Veiled client.digest) :=
  (h.announce hcalls).bind fun _ _ _ =>
    (h.send hcalls clock canceled 0).beforeFailing (h.tellFailure hcalls)

theorem conclude (h : client.Veils W client') (hcalls : c.Veiled client.digest c') (now : Instant)
    {response response' : Response} (hresponse : response.Veiled client.digest response') :
    (client.conclude c now response).Mirrors W (Event.Veiled client.digest)
      (client'.conclude c' now response') (Progress.Veiled client.digest) := by
  have hsize : response.sizeText = response'.sizeText := by
    simp only [Response.sizeText, hresponse.size]
  unfold Client.conclude
  rw [hcalls.verbose, hcalls.debug, hcalls.line_eq, hcalls.start, hresponse.status, hsize,
    ← h.digest]
  refine (Act.mirrors_onlyIf (hcalls.say _ _)).bind fun _ _ _ => ?_
  refine (Act.mirrors_ite (fun _ => hcalls.sayResponse hresponse) fun _ =>
    Act.mirrors_pure hresponse).bind fun shown shown' hshown => ?_
  rw [hshown.status]
  exact (h.askObservers (fun i => .didReceive i hcalls.request _) fun _ _ ho =>
    ho.didReceive _ _ _ _ hcalls.request hshown).bind fun _ _ _ =>
      Act.mirrors_pure (.answered hshown)

theorem begin (h : client.Veils W client') (id : Nat) {request request' : Request}
    (hrequest : request.Veiled client.digest request') (clock : Clock) (canceled : Bool) :
    (client.begin id request clock canceled).Mirrors W (Event.Veiled client.digest)
      (client'.begin id request' clock canceled) (Progress.Veiled client.digest) := by
  refine (h.prepare id hrequest clock).bind fun c c' hcalls => ?_
  refine (h.askNext hcalls).bind fun next _ hnext => ?_
  obtain rfl := hnext
  refine (atGate hcalls clock next).bind fun wake _ hwake => ?_
  obtain rfl := hwake
  cases wake with
  | none => exact h.launch hcalls clock canceled
  | some wake =>
    exact Act.mirrors_ite (fun _ => Act.mirrors_throw _) fun _ =>
      Act.mirrors_pure (.waits hcalls wake .gate)

theorem resume (h : client.Veils W client') (hcalls : c.Veiled client.digest c')
    {wait wait' : Wait} (hwait : wait.Veiled client.digest wait') (clock : Clock)
    (canceled : Bool) :
    (client.resume c wait clock canceled).Mirrors W (Event.Veiled client.digest)
      (client'.resume c' wait' clock canceled) (Progress.Veiled client.digest) := by
  cases hwait with
  | gate =>
    exact Act.mirrors_ite (fun _ => Act.mirrors_throw _) fun _ => h.launch hcalls clock canceled
  | pause attempt =>
    exact (h.send hcalls clock canceled (attempt + 1)).beforeFailing (h.tellFailure hcalls)
  | flight attempt hresult =>
    have hlanded := Act.mirrors_ite (c := canceled = true)
      (fun _ => Act.mirrors_throw (.error .canceled))
      fun _ => h.land hcalls clock attempt hresult
    refine (hlanded.beforeFailing (h.tellFailure hcalls)).bind fun _ _ hprogress => ?_
    cases hprogress with
    | waits hcalls wake hwait => exact Act.mirrors_pure (.waits hcalls wake hwait)
    | answered hresponse => exact h.conclude hcalls clock.now hresponse

/-! ## Runs -/

/-- Calls that are followed side by side stay veiled from each other. -/
theorem follow (h : client.Veils W client') (cancel : Option Instant) (n : Nat) :
    ∀ (progress progress' : Answer Failure Progress) (s s' : Scene σ),
      progress.Matches (Progress.Veiled client.digest) progress' →
      s.Mirrors W (Event.Veiled client.digest) s' →
        (client.follow cancel n progress s).1.Matches (Progress.Veiled client.digest)
            (client'.follow cancel n progress' s').1 ∧
          (client.follow cancel n progress s).2.Mirrors W (Event.Veiled client.digest)
            (client'.follow cancel n progress' s').2 := by
  induction n with
  | zero => exact fun progress progress' s s' hprogress hscenes => ⟨hprogress, hscenes⟩
  | succ n ih =>
    intro progress progress' s s' hprogress hscenes
    cases hprogress with
    | error stop => exact ⟨.error stop, hscenes⟩
    | ok hprogress =>
      cases hprogress with
      | answered hresponse => exact ⟨.ok (.answered hresponse), hscenes⟩
      | @waits c c' wait wait' hcalls wake hwait =>
        simp only [Client.follow, ← hscenes.clock]
        generalize wakeUp s.clock.now wake cancel = up
        have hlater := hscenes.later up.1
        have hclock : (s.later up.1).clock = (s'.later up.1).clock := hlater.clock
        obtain ⟨hprogress, hscenes⟩ := hlater.perform <|
          h.resume hcalls hwait (s.later up.1).clock up.2
        rw [← hclock]
        exact ih _ _ _ _ hprogress hscenes

/-- Runs of veiled clients have the same failure or veiled responses, in scenes that mirror each
other. -/
theorem run (h : client.Veils W client') (id : Nat) {request request' : Request}
    (hrequest : request.Veiled client.digest request') (cancel : Option Instant) {s s' : Scene σ}
    (hscenes : s.Mirrors W (Event.Veiled client.digest) s') :
    ∃ result result', (client.run id request cancel s).1 = some result ∧
      (client'.run id request' cancel s').1 = some result' ∧
        result.Matches (Response.Veiled client.digest) result' ∧
          (client.run id request cancel s).2.Mirrors W (Event.Veiled client.digest)
            (client'.run id request' cancel s').2 := by
  have hended := client.isSome_run id request cancel s
  simp only [run_eq_follow, ← hscenes.clock] at hended ⊢
  obtain ⟨hbegun, hscenes⟩ := hscenes.perform <|
    h.begin id hrequest s.clock (isPast cancel s.clock.now)
  obtain ⟨hfollowed, hscenes⟩ := h.follow cancel maxWaits _ _ _ _ hbegun hscenes
  revert hended hfollowed hscenes
  generalize client.follow cancel maxWaits _ _ = followed
  generalize client'.follow cancel maxWaits _ _ = followed'
  obtain ⟨progress, t⟩ := followed
  obtain ⟨progress', t'⟩ := followed'
  rintro hended (hprogress | stop) hscenes
  · cases hprogress with
    | waits => cases hended
    | answered hresponse => exact ⟨_, _, rfl, rfl, .ok hresponse, hscenes⟩
  · exact ⟨_, _, rfl, rfl, .error stop, hscenes⟩

end Client.Veils

end Courier
