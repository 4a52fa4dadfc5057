import Courier.Authorizer
import Courier.Proofs.Call.Lockstep
import Courier.Proofs.Call.Secrecy
import Courier.Proofs.Url.Query

/-!
# Calls that only the values in their queries tell apart

Two calls of one client are twins if only the values of the parameters tell them apart that its
authorizer adds to the query. What they trace, and the failures that they end in, differ at most in
the URL that they show (`Event.Twins`, `Failure.Twins`). And if they trace anything at all, they
trace a line with the URL (`Told`). The collaborators have to answer twins alike for that
(`Client.Blind`).
-/

namespace Courier

/-- Parameters for a query, twice, with the same names. -/
structure Form.Twins where
  left : Pairs
  right : Pairs
  names : left.map Prod.fst = right.map Prod.fst

variable {σ : Type} {q : Form.Twins}

/-! ## What only the values tell apart -/

/-- Requests on their way, to one URL with parameters of the twins. -/
structure Outgoing.Twins (q : Form.Twins) (r r' : Outgoing) : Prop where
  method : r.method = r'.method
  url : ∃ base : Url, r.url = base.appendPairs q.left ∧ r'.url = base.appendPairs q.right
  headers : r.headers = r'.headers
  body : r.body = r'.body

/-- Responses that are the same, but for where they came from. `U` says where that may be. -/
structure Response.Twins (U : Option Url → Option Url → Prop) (r r' : Response) : Prop where
  status : r.status = r'.status
  url : U r.url r'.url
  headers : r.headers = r'.headers
  body : r.body = r'.body
  size : r.size = r'.size

/-- Ends of requests on their way, with the same fault or twins of responses. -/
inductive Delivery.ResultTwins (U : Option Url → Option Url → Prop) :
    Except Bool Response → Except Bool Response → Prop where
  | error (timeout : Bool) : ResultTwins U (.error timeout) (.error timeout)
  | ok {r r' : Response} (h : r.Twins U r') : ResultTwins U (.ok r) (.ok r')

/-- Failures that differ in the URL only. Status failures that are the same are voiced by others. -/
inductive Failure.Twins (q : Form.Twins) (Voiced : StatusFailure → Prop) :
    Failure → Failure → Prop where
  | same (f : Failure) (h : ∀ e, f = .status e → Voiced e) : Twins q Voiced f f
  | status (e : StatusFailure) {r r' : Outgoing} (h : r.Twins q r') :
      Twins q Voiced (.status { e with url := r.url.print })
        (.status { e with url := r'.url.print })
  | rateLimit (id : Nat) (method : String) (source : Limiter.Refusal) {r r' : Outgoing}
      (h : r.Twins q r') :
      Twins q Voiced (.rateLimit id method r.url.print source)
        (.rateLimit id method r'.url.print source)

/-- Lines of a trace that are the same, or differ in the URL that they begin with. -/
inductive Trace.Twins (q : Form.Twins) : Trace → Trace → Prop where
  | same (t : Trace) : Twins q t t
  | shows (t : Trace) (method tail : String) {r r' : Outgoing} (h : r.Twins q r') :
      Twins q { t with text := method ++ " " ++ r.url.print ++ tail }
        { t with text := method ++ " " ++ r'.url.print ++ tail }

/-- Events that do the same, with twins of requests, failures or lines. -/
inductive Event.Twins (q : Form.Twins) (Voiced : StatusFailure → Prop) : Event → Event → Prop where
  | same (e : Event) : Twins q Voiced e e
  | willSend (i : Nat) {r r' : Outgoing} (h : r.Twins q r') :
      Twins q Voiced (.willSend i r) (.willSend i r')
  | didReceive (i : Nat) {r r' : Outgoing} (h : r.Twins q r') (status : Status) :
      Twins q Voiced (.didReceive i r status) (.didReceive i r' status)
  | failed (i : Nat) {r r' : Outgoing} {f f' : Failure} (h : r.Twins q r')
      (hf : f.Twins q Voiced f') : Twins q Voiced (.failed i r f) (.failed i r' f')
  | sends {r r' : Outgoing} (h : r.Twins q r') : Twins q Voiced (.sends r) (.sends r')
  | traces {t t' : Trace} (h : t.Twins q t') : Twins q Voiced (.traces t) (.traces t')

/-- Calls with twins of requests. -/
structure Call.Twins (q : Form.Twins) (c c' : Call) : Prop where
  id : c.id = c'.id
  start : c.start = c'.start
  request : c.request.Twins q c'.request
  verbose : c.verbose = c'.verbose
  debug : c.debug = c'.debug

/-- Calls wait for the same, with twins of responses. -/
inductive Call.Wait.Twins (U : Option Url → Option Url → Prop) : Call.Wait → Call.Wait → Prop where
  | gate : Twins U .gate .gate
  | flight (attempt : Nat) {result result' : Except Bool Response}
      (h : Delivery.ResultTwins U result result') :
      Twins U (.flight attempt result) (.flight attempt result')
  | pause (attempt : Nat) : Twins U (.pause attempt) (.pause attempt)

/-- Calls have come equally far. -/
inductive Call.Progress.Twins (q : Form.Twins) (U : Option Url → Option Url → Prop) :
    Call.Progress → Call.Progress → Prop where
  | waits {c c' : Call} {wait wait' : Call.Wait} (hcalls : c.Twins q c') (wake : Instant)
      (hwait : wait.Twins U wait') : Twins q U (.waits c wake wait) (.waits c' wake wait')
  | answered {r r' : Response} (h : r.Twins U r') : Twins q U (.answered r) (.answered r')

theorem Outgoing.Twins.print_eq_iff {r r' : Outgoing} (h : r.Twins q r') :
    r.url.print = r'.url.print ↔ q.left = q.right := by
  obtain ⟨base, hurl, hurl'⟩ := h.url
  rw [hurl, hurl']
  exact ⟨Url.print_appendPairs_inj, fun heq => by rw [heq]⟩

/-- The same parameters show in the same way. -/
theorem Trace.Twins.eq {t t' : Trace} (h : t.Twins q t') (heq : q.left = q.right) : t = t' := by
  cases h with
  | same => rfl
  | shows t method tail hr => rw [hr.print_eq_iff.2 heq]

/-! ## Journals -/

/-- The lines of a trace among events. -/
def linesOf (es : List Event) : List Trace :=
  es.filterMap Event.trace?

@[simp] theorem linesOf_append (es es' : List Event) :
    linesOf (es ++ es') = linesOf es ++ linesOf es' :=
  List.filterMap_append

/-- Events that are twins one by one, and show the same lines only if the parameters are the
same. -/
structure Shown (q : Form.Twins) (Voiced : StatusFailure → Prop) (es es' : List Event) : Prop where
  events : List.Forall₂ (Event.Twins q Voiced) es es'
  shows : linesOf es = linesOf es' → q.left = q.right

/-- Events that are twins one by one. If there are any lines among them, they are the same only if
the parameters are. -/
structure Told (q : Form.Twins) (Voiced : StatusFailure → Prop) (es es' : List Event) : Prop where
  events : List.Forall₂ (Event.Twins q Voiced) es es'
  shows : linesOf es = [] ∨ (linesOf es = linesOf es' → q.left = q.right)

variable {Voiced : StatusFailure → Prop} {es es' ds ds' : List Event}

theorem Event.Twins.trace? {e e' : Event} (h : e.Twins q Voiced e') :
    Option.Rel (Trace.Twins q) e.trace? e'.trace? := by
  cases h with
  | same e =>
    cases e with
    | traces t => exact .some (.same t)
    | _ => exact .none
  | traces h => exact .some h
  | _ => exact .none

/-- Twins of events show twins of lines. -/
theorem forall₂_linesOf (h : List.Forall₂ (Event.Twins q Voiced) es es') :
    List.Forall₂ (Trace.Twins q) (linesOf es) (linesOf es') :=
  List.rel_filterMap (fun _ _ he => he.trace?) h

/-- Lines that are the same all together are so in both parts. -/
theorem linesOf_append_inj (h : List.Forall₂ (Event.Twins q Voiced) es es')
    (hlines : linesOf (es ++ ds) = linesOf (es' ++ ds')) :
    linesOf es = linesOf es' ∧ linesOf ds = linesOf ds' := by
  rw [linesOf_append, linesOf_append] at hlines
  exact List.append_inj hlines (forall₂_linesOf h).length_eq

theorem Shown.told (h : Shown q Voiced es es') : Told q Voiced es es' :=
  ⟨h.events, .inr h.shows⟩

/-- What comes after a line with the URL need not show it again. -/
theorem Shown.append (h : Shown q Voiced es es')
    (h' : List.Forall₂ (Event.Twins q Voiced) ds ds') : Told q Voiced (es ++ ds) (es' ++ ds') :=
  ⟨List.rel_append h.events h', .inr fun hlines =>
    h.shows (linesOf_append_inj h.events hlines).1⟩

theorem Told.chain : Chain (Told q Voiced) where
  nil := ⟨.nil, .inl rfl⟩
  append h h' := by
    refine ⟨List.rel_append h.events h'.events, ?_⟩
    rcases h.shows with hquiet | hshows
    · rcases h'.shows with hquiet' | hshows'
      · exact .inl (by rw [linesOf_append, hquiet, hquiet', List.append_nil])
      · exact .inr fun hlines => hshows' (linesOf_append_inj h.events hlines).2
    · exact .inr fun hlines => hshows (linesOf_append_inj h.events hlines).1

/-- An event that is no line. -/
theorem told_silent {e e' : Event} (h : e.Twins q Voiced e') (hsilent : e.trace? = none) :
    Told q Voiced [e] [e'] :=
  ⟨.cons h .nil, .inl (by simp [linesOf, hsilent])⟩

/-! ## Collaborators -/

section Collaborators

variable (q : Form.Twins) (U : Option Url → Option Url → Prop) (Voiced : StatusFailure → Prop)
  (W : σ → σ → Prop)

/-- A limiter that answers twins alike. -/
structure Limiter.Blind (l : Limiter σ) : Prop where
  report : ∀ now, AnswerAlike W Eq (l.report now) (l.report now)
  next : ∀ now r r', r.Twins q r' → AnswerAlike W Eq (l.next now r) (l.next now r')
  update : ∀ start clock r r', r.Twins U r' →
    AnswerAlike W Eq (l.update start clock r) (l.update start clock r')

/-- An observer that answers twins alike. -/
structure Observer.Blind (o : Observer σ) : Prop where
  willSend : ∀ r r', r.Twins q r' → AnswerAlike W Eq (o.willSend r) (o.willSend r')
  didReceive : ∀ r r' response response', r.Twins q r' → response.Twins U response' →
    AnswerAlike W Eq (o.didReceive r response) (o.didReceive r' response')
  failed : ∀ r r' f f', r.Twins q r' → f.Twins q Voiced f' →
    AnswerAlike W Eq (o.failed r f) (o.failed r' f')

/-- A transport that answers twins of requests after the same time with twins of responses. -/
def Transport.Blind (t : Transport σ) : Prop :=
  ∀ now r r' w w', r.Twins q r' → W w w' →
    (t now r w).1.after = (t now r' w').1.after ∧
      Delivery.ResultTwins U (t now r w).1.result (t now r' w').1.result ∧
        W (t now r w).2 (t now r' w').2

end Collaborators

/-- An observer rejects something with a status failure. -/
def Client.Voices (client : Client σ) (e : StatusFailure) : Prop :=
  ∃ o ∈ client.observers, (∃ r w, (o.willSend r w).1 = .error (.error (.status e))) ∨
    ∃ r response w, (o.didReceive r response w).1 = .error (.error (.status e))

/-- A client whose collaborators answer twins alike, in related worlds. -/
structure Client.Blind (q : Form.Twins) (U : Option Url → Option Url → Prop) (W : σ → σ → Prop)
    (client : Client σ) : Prop where
  limiter : ∀ l, client.limiter = some l → l.Blind q U W
  observers : ∀ o ∈ client.observers, o.Blind q U client.Voices W
  transport : Transport.Blind q U W client.transport

/-- The client with credentials in the query of its calls. -/
def Client.asking (client : Client σ) (params : Form.Pairs) : Client σ :=
  client.withAuthorizer (Credentials.authorize (.query params))

/-! ## Lines -/

namespace Call.Twins

variable {W : σ → σ → Prop} {F : Failure → Failure → Prop} {c c' : Call}

/-- A line that begins with the URL shows the parameters. -/
theorem say (h : c.Twins q c') (tail : String) (elapsed : Option Duration) :
    (c.say (c.line ++ tail) elapsed : Act σ Unit).Pairs W (Shown q Voiced) F
      (c'.say (c'.line ++ tail) elapsed) fun _ _ => True := by
  unfold Call.say line
  rw [h.id, h.request.method]
  refine Act.pairs_record ⟨.cons (.traces (.shows { text := "", call := some c'.id, elapsed }
    c'.request.method tail h.request)) .nil, fun hlines => ?_⟩
  simp only [linesOf, Event.trace?, List.filterMap_cons, List.filterMap_nil, List.cons.injEq,
    Trace.mk.injEq, String.append_left_inj, String.append_right_inj] at hlines
  exact h.request.print_eq_iff.1 hlines.1.1

theorem sayStep (h : c.Twins q c') (text : String) :
    (c.sayStep text : Act σ Unit).Pairs W (Told q Voiced) F (c'.sayStep text)
      fun _ _ => True := by
  unfold Call.sayStep
  rw [h.verbose]
  simp only [String.append_assoc]
  exact Act.pairs_onlyIf Told.chain ((h.say _ _).mono fun _ _ => Shown.told)

/-- A dump of headers does not show the URL. -/
theorem sayHeaders (h : c.Twins q c') (digest : Bytes → Bytes) (what : String)
    (headers : Headers) :
    (c.sayHeaders digest what headers : Act σ Unit).Pairs W
      (List.Forall₂ (Event.Twins q Voiced)) F (c'.sayHeaders digest what headers)
      fun _ _ => True := by
  unfold Call.sayHeaders Call.say
  rw [h.id]
  exact Act.pairs_record (.cons (.same _) .nil)

theorem sayBody (h : c.Twins q c') (what mark : String) (body : Bytes) :
    (c.sayBody what mark body : Act σ Unit).Pairs W (List.Forall₂ (Event.Twins q Voiced)) F
      (c'.sayBody what mark body) fun _ _ => True := by
  unfold Call.sayBody Call.say
  rw [h.id]
  exact Act.pairs_onlyIf (.forall₂ _) (Act.pairs_record (.cons (.same _) .nil))

theorem sayRequest (h : c.Twins q c') (digest : Bytes → Bytes) :
    (c.sayRequest digest : Act σ Unit).Pairs W (List.Forall₂ (Event.Twins q Voiced)) F
      (c'.sayRequest digest) fun _ _ => True := by
  unfold Call.sayRequest
  rw [h.verbose, h.request.body, h.request.headers]
  exact (h.sayHeaders digest _ _).bind (.forall₂ _) fun _ _ _ =>
    Act.pairs_onlyIf (.forall₂ _) (h.sayBody _ _ _)

theorem sayResponse {U : Option Url → Option Url → Prop} (h : c.Twins q c')
    (digest : Bytes → Bytes) {response response' : Response}
    (hresponse : response.Twins U response') (hF : F (.transport false) (.transport false)) :
    (c.sayResponse digest response : Act σ Response).Pairs W
      (List.Forall₂ (Event.Twins q Voiced)) F (c'.sayResponse digest response')
      (Response.Twins U) := by
  unfold Call.sayResponse
  rw [h.verbose, hresponse.body, hresponse.headers]
  refine (h.sayHeaders digest _ _).bind (.forall₂ _) fun _ _ _ => ?_
  refine Act.pairs_ite (fun _ => ?_) fun _ => Act.pairs_pure (.forall₂ _) hresponse
  cases response'.body with
  | none => exact Act.pairs_fail (.forall₂ _) hF
  | some body =>
    exact (h.sayBody _ _ body).bind (.forall₂ _) fun _ _ _ => Act.pairs_pure (.forall₂ _)
      ⟨hresponse.status, hresponse.url, hresponse.headers, rfl, rfl⟩

end Call.Twins

end Courier
