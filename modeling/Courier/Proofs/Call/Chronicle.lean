import Courier.Proofs.Call.Account
import Courier.Proofs.Call.Stages
import Courier.Proofs.Call.Waits

/-!
# The chronicle of a call

What a call asks its collaborators and tells them, with their answers, is a sentence of a small
grammar. The authorizer comes first, then the limiter's report and its `next`, then the observers
before the first sending. Each response that comes is shown to the limiter when it comes
(`Client.Replies`), before the call waits, sends again or ends (`Client.Exchanges`,
`Client.Ends`). At last the observers hear of a failure, or of the response. `Client.Chronicle`
is this grammar : it says which words a call can say, in which order and how often, and what the
call comes to. A call that waits stands inside a sentence (`Client.Standing`), every piece of it
goes on with that sentence (`Client.begin_tells`, `Client.resume_tells`), and so each run is a
sentence to its end (`Client.exists_chronicle`).
-/

namespace Courier

/-- What a limiter's answer to a response makes of it. -/
def Reply.ofAnswer (response : Response) : Answer Limiter.Refusal Unit → Reply
  | .ok () => .heard response none
  | .error (.error refusal) => .heard response (some refusal)
  | .error (.crash crash) => .crashed crash

/-- The response that observers are told of. The body of a response is read before if it is
traced. -/
def Call.shown? (c : Call) (response : Response) : Option Response :=
  if c.debug && c.verbose then response.body.map response.restored else some response

namespace Client

open Call (Progress Wait)

variable {σ : Type} (client : Client σ)

/-! ## The grammar -/

/-- The call for a request that was resolved and then authorized. -/
def callOf (id : Nat) (start : Instant) (resolved authorized : Outgoing) : Call where
  id
  start
  request := { authorized with headers := authorized.headers.withDefaults client.headers }
  verbose := client.tracing.followsSteps resolved.url
  debug := client.tracing.showsHeaders resolved.url

/-- A request is resolved, and the authorizer is asked once if there is one. -/
inductive Prepares (id : Nat) (request : Request) (start : Instant) :
    List Word → Answer Failure Call → Prop where
  | unresolved {f : Failure} (hresolve : request.resolve client.base = .error f) :
      Prepares id request start [] (.fail f)
  | bare {resolved : Outgoing} (hresolve : request.resolve client.base = .ok resolved)
      (hauthorizer : client.authorizer = none) :
      Prepares id request start [] (.ok (client.callOf id start resolved resolved))
  | asked {resolved : Outgoing} {answer : Answer AuthFault Outgoing}
      (hresolve : request.resolve client.base = .ok resolved)
      (hauthorizer : client.authorizer.isSome) :
      Prepares id request start [.authorizes resolved answer]
        ((answer.mapError (Act.stopped .authorization)).map (client.callOf id start resolved))

variable (c : Call)

/-- The limiter is asked once when the call may go on, and what it has left before if steps are
traced. -/
inductive Paces : List Word → Answer Failure (Option Instant) → Prop where
  | free (hlimiter : client.limiter = none) : Paces [] (.ok none)
  | asked {answer : Answer Limiter.Refusal Instant} (hlimiter : client.limiter.isSome)
      (hverbose : c.verbose = false) :
      Paces [.asksNext c.start c.request answer]
        ((answer.mapError (Act.stopped c.refused)).map some)
  | reported {report : Limiter.Report} {answer : Answer Limiter.Refusal Instant}
      (hlimiter : client.limiter.isSome) (hverbose : c.verbose = true) :
      Paces [.asksReport c.start (.ok report), .asksNext c.start c.request answer]
        ((answer.mapError (Act.stopped c.refused)).map some)
  | crashed {crash : Crash} (hlimiter : client.limiter.isSome) (hverbose : c.verbose = true) :
      Paces [.asksReport c.start (.crashed crash)] (.crashed crash)

/-- A request is sent, and what comes of it. A response is shown to the limiter when it comes. -/
inductive Replies : Tale → Reply → Prop where
  | fault {t : Instant} {d : Delivery} {timeout : Bool} (hresult : d.result = .error timeout) :
      Replies [(t, .sends c.request d)] (.fault timeout)
  | free {t : Instant} {d : Delivery} {response : Response} (hlimiter : client.limiter = none)
      (hresult : d.result = .ok response) :
      Replies [(t, .sends c.request d)] (.heard response none)
  | shown {t : Instant} {d : Delivery} {response : Response}
      {answer : Answer Limiter.Refusal Unit} (hlimiter : client.limiter.isSome)
      (hresult : d.result = .ok response) :
      Replies [(t, .sends c.request d), (t.wake d.after, .shows c.start response answer)]
        (.ofAnswer response answer)

/-- A request is sent a number of times, with replies that are not final. -/
inductive Exchanges : Nat → Tale → Prop where
  | nil : Exchanges 0 []
  | snoc {n : Nat} {tale more : Tale} {reply : Reply} (hbefore : Exchanges n tale)
      (hreplies : client.Replies c more reply) (hreply : ¬client.Final reply)
      (hleft : n < maxRetries) : Exchanges (n + 1) (tale ++ more)

/-- A request that was sent a number of times is sent for the last time, or the call is canceled
before or meanwhile. -/
inductive Ends (cancel : Option Instant) (n : Nat) : Tale → Answer Failure Response → Prop where
  | canceled (hcancel : cancel.isSome) : Ends cancel n [] (.fail .canceled)
  | cut {t : Instant} {d : Delivery} (hcancel : cancel.isSome) :
      Ends cancel n [(t, .sends c.request d)] (.fail .canceled)
  | decided {tale : Tale} {reply : Reply} (hreplies : client.Replies c tale reply)
      (hreply : client.Final reply ∨ n = maxRetries) : Ends cancel n tale (verdict c reply)

/-- A call that has its response tells the observers. -/
inductive Concludes (response : Response) : List Word → Answer Failure Response → Prop where
  | unread (hshown : c.shown? response = none) : Concludes response [] (.fail (.transport false))
  | told {shown : Response} {words : List Word} {answer : Answer Failure Unit}
      (hshown : c.shown? response = some shown) (hwords : client.Receives c shown words answer) :
      Concludes response words (answer.map fun _ => shown)

variable (id : Nat) (request : Request) (start : Instant) (cancel : Option Instant)

/-- The way of a call to its gate, with the instant at which it may go on. -/
inductive Admitted (next : Option Instant) : Tale → Prop where
  | intro {words words' : List Word} (hprepares : client.Prepares id request start words (.ok c))
      (hpaces : client.Paces c words' (.ok next)) : Admitted next (spoken start (words ++ words'))

/-- The way of a call to its first sending. -/
inductive Announced : Tale → Prop where
  | intro {next : Option Instant} {tale : Tale} {t : Instant} {words : List Word}
      (hadmitted : client.Admitted c id request start next tale)
      (hwills : client.Wills c words (.ok ())) : Announced (tale ++ spoken t words)

/-- A call is under way, and its request was sent a number of times. -/
inductive Underway (n : Nat) : Tale → Prop where
  | intro {before tale : Tale} (hannounced : client.Announced c id request start before)
      (hexchanges : client.Exchanges c n tale) : Underway n (before ++ tale)

/-- What a call says to its end, and what it comes to. -/
inductive Chronicle : Tale → Answer Failure Response → Prop where
  | unprepared {words : List Word} {stop : Stop Failure}
      (hprepares : client.Prepares id request start words (.error stop)) :
      Chronicle (spoken start words) (.error stop)
  | barred {c : Call} {words words' : List Word} {stop : Stop Failure}
      (hprepares : client.Prepares id request start words (.ok c))
      (hpaces : client.Paces c words' (.error stop)) :
      Chronicle (spoken start (words ++ words')) (.error stop)
  | canceled {c : Call} {next : Instant} {tale : Tale}
      (hadmitted : client.Admitted c id request start (some next) tale) (hcancel : cancel.isSome) :
      Chronicle tale (.fail .canceled)
  | vetoed {c : Call} {next : Option Instant} {tale : Tale} {t : Instant} {words : List Word}
      {stop : Stop Failure} (hadmitted : client.Admitted c id request start next tale)
      (hwills : client.Wills c words (.error stop)) :
      Chronicle (tale ++ spoken t words) (.error stop)
  | crashed {c : Call} {n : Nat} {tale last : Tale} {crash : Crash}
      (hunderway : client.Underway c id request start n tale)
      (hends : client.Ends c cancel n last (.crashed crash)) :
      Chronicle (tale ++ last) (.crashed crash)
  | failed {c : Call} {n : Nat} {tale last : Tale} {f : Failure} {t : Instant} {words : List Word}
      (hunderway : client.Underway c id request start n tale)
      (hends : client.Ends c cancel n last (.fail f)) (hfails : client.Fails c f words (.ok ())) :
      Chronicle (tale ++ last ++ spoken t words) (.fail f)
  | failedTwice {c : Call} {n : Nat} {tale last : Tale} {f : Failure} {t : Instant}
      {words : List Word} {crash : Crash} (hunderway : client.Underway c id request start n tale)
      (hends : client.Ends c cancel n last (.fail f))
      (hfails : client.Fails c f words (.crashed crash)) :
      Chronicle (tale ++ last ++ spoken t words) (.crashed crash)
  | concluded {c : Call} {n : Nat} {tale last : Tale} {response : Response} {t : Instant}
      {words : List Word} {answer : Answer Failure Response}
      (hunderway : client.Underway c id request start n tale)
      (hends : client.Ends c cancel n last (.ok response))
      (hconcludes : client.Concludes c response words answer) :
      Chronicle (tale ++ last ++ spoken t words) answer

/-! ## Calls that wait -/

/-- Where a call that waits stands in its chronicle. -/
inductive Standing : Tale → Instant → Wait → Prop where
  | gate {next wake : Instant} {tale : Tale}
      (hadmitted : client.Admitted c id request start (some next) tale) : Standing tale wake .gate
  | flight {n : Nat} {tale : Tale} {t : Instant} {d : Delivery}
      (hunderway : client.Underway c id request start n tale) :
      Standing (tale ++ [(t, .sends c.request d)]) (t.wake d.after) (.flight n d.result)
  | pause {n : Nat} {tale : Tale} {wake : Instant}
      (hunderway : client.Underway c id request start (n + 1) tale) :
      Standing tale wake (.pause n)

/-- A call waits, or its chronicle is complete. -/
def Stands (tale : Tale) : Answer Failure Progress → Prop
  | .ok (.waits c wake wait) => client.Standing c id request start tale wake wait
  | .ok (.answered response) => client.Chronicle id request start cancel tale (.ok response)
  | .error stop => client.Chronicle id request start cancel tale (.error stop)

/-! ## What the pieces of a call tell -/

theorem prepare_tells (clock : Clock) :
    (client.prepare id request clock).Tells client clock
      (client.Prepares id request clock.now) := by
  unfold prepare
  cases hresolve : request.resolve client.base with
  | error f => exact Act.tells_fail (.unresolved hresolve)
  | ok resolved =>
    cases hauthorizer : client.authorizer with
    | none => exact Act.tells_pure (.bare hresolve hauthorizer)
    | some authorizer =>
      have hasked (answer : Answer AuthFault Outgoing) :
          client.Prepares id request clock.now [.authorizes resolved answer] _ :=
        .asked hresolve (hauthorizer ▸ rfl)
      refine Act.tells_ask_bind rfl fun w =>
        ⟨.authorizes resolved (authorizer resolved w).1, rfl, ⟨authorizer, hauthorizer, rfl⟩, ?_⟩
      rcases (authorizer resolved w).1 with stop | authorized
      · exact hasked (.error stop)
      · exact Act.tells_pure (hasked (.ok authorized))

theorem sayStep_traces (clock : Clock) (text : String) : (c.sayStep text).Traces client clock :=
  (Act.traces_record _).onlyIf _

theorem sayBody_traces (clock : Clock) (what mark : String) (body : Bytes) :
    (c.sayBody what mark body).Traces client clock :=
  (Act.traces_record _).onlyIf _

theorem sayRequest_traces (clock : Clock) : (c.sayRequest client.digest).Traces client clock :=
  (Act.traces_record _).andTraces ((client.sayBody_traces c clock _ _ _).onlyIf _)

theorem sayReport_does {limiter : Limiter σ} (hlimiter : client.limiter = some limiter)
    (clock : Clock) {w w' : σ} {said : Answer Empty Limiter.Report}
    (hsaid : limiter.report c.start w = (said, w')) :
    (c.sayReport limiter).Does client clock w [.asksReport c.start said]
      ((said.mapError (Act.stopped Empty.elim)).map fun _ => ()) w' := by
  have hspoken : client.Says clock w (.asksReport c.start said) w' := ⟨limiter, hlimiter, hsaid⟩
  cases said with
  | error stop => exact Act.does_ask_error _ rfl rfl hsaid hspoken _
  | ok report => exact Act.does_ask_bind rfl rfl hsaid hspoken (client.sayStep_traces c clock _ _)

theorem asksNext_does {limiter : Limiter σ} (hlimiter : client.limiter = some limiter)
    (clock : Clock) {w w' : σ} {said : Answer Limiter.Refusal Instant}
    (hsaid : limiter.next c.start c.request w = (said, w')) :
    (Act.record (.asksNext c.start) >>= fun _ =>
      Act.ask c.refused (limiter.next c.start c.request) >>= fun next => pure (some next)).Does
        client clock w [.asksNext c.start c.request said]
        ((said.mapError (Act.stopped c.refused)).map some) w' := by
  have hspoken : client.Says clock w (.asksNext c.start c.request said) w' :=
    ⟨limiter, hlimiter, hsaid⟩
  cases said with
  | error stop => exact Act.does_ask_error _ rfl rfl hsaid hspoken _
  | ok next => exact Act.does_ask_bind rfl rfl hsaid hspoken (Act.does_pure _)

theorem askNext_tells (clock : Clock) :
    (client.askNext c).Tells client clock (client.Paces c) := by
  unfold askNext
  cases hlimiter : client.limiter with
  | none => exact Act.tells_pure (.free hlimiter)
  | some limiter =>
    have hsome : client.limiter.isSome := hlimiter ▸ rfl
    intro w
    cases hverbose : c.verbose with
    | false =>
      exact ⟨_, _, _, client.asksNext_does c hlimiter clock rfl, .asked hsome hverbose⟩
    | true =>
      rcases hsaid : limiter.report c.start w with ⟨(⟨⟨⟩⟩ | crash) | report, w'⟩ <;>
        have hreport := client.sayReport_does c hlimiter clock hsaid
      · exact ⟨_, _, _, hreport.bind_error _, .crashed hsome hverbose⟩
      · exact ⟨_, _, _, hreport.bind (client.asksNext_does c hlimiter clock rfl),
          .reported hsome hverbose⟩

/-- Only a call that has the limiter's instant waits at its gate. -/
theorem atGate_tells (clock : Clock) (next : Option Instant) :
    (atGate c clock next : Act σ (Option Instant)).Tells client clock fun words answer =>
      words = [] ∧ ∃ wake, answer = .ok wake ∧ (wake.isSome → next.isSome) := by
  refine Act.tells_ite (fun _ => Act.tells_pure ⟨rfl, none, rfl, nofun⟩) fun hdelay => ?_
  refine (client.sayStep_traces c clock _).andThen (Act.tells_pure ⟨rfl, _, rfl, fun _ => ?_⟩)
  cases next with
  | none => exact absurd rfl hdelay
  | some _ => rfl

theorem announce_tells (clock : Clock) :
    (client.announce c).Tells client clock (client.Wills c) := by
  refine (client.askObservers_tells clock _ (.willSend · c.request ·) (fun _ => rfl)
    (fun _ _ => rfl) fun _ o _ ho => ⟨o, ho, rfl⟩).bind (fun _ _ h => h) fun words _ hwords => ?_
  refine ((Act.traces_record _).onlyIf _).andThen ?_
  refine ((client.sayRequest_traces c clock).onlyIf _).tells ?_
  rwa [List.append_nil]

theorem send_tells (clock : Clock) (canceled : Bool) (attempt : Nat) :
    (client.send c clock canceled attempt).Tells client clock fun words answer =>
      (canceled = true ∧ words = [] ∧ answer = .fail .canceled) ∨
        ∃ d, words = [.sends c.request d] ∧
          answer = .ok (.waits c (clock.now.wake d.after) (.flight attempt d.result)) := by
  refine Act.tells_ite (fun h => Act.tells_fail (.inl ⟨h, rfl, rfl⟩)) fun _ => ?_
  exact Act.tells_ask_bind rfl fun w =>
    ⟨.sends c.request (client.transport clock.now c.request w).1, rfl, rfl,
      Act.tells_pure (.inr ⟨_, rfl, rfl⟩)⟩

/-- What a call hears of an answer of the limiter to a response. -/
def heardFrom : Answer Limiter.Refusal Unit → Answer Failure (Option Limiter.Refusal)
  | .ok () => .ok none
  | .error (.error refusal) => .ok (some refusal)
  | .error (.crash crash) => .crashed crash

theorem learn_tells (clock : Clock) (response : Response) :
    (client.learn c clock response).Tells client clock fun words answer =>
      (client.limiter = none ∧ words = [] ∧ answer = .ok none) ∨
        (client.limiter.isSome ∧
          ∃ said, words = [.shows c.start response said] ∧ answer = heardFrom said) := by
  unfold learn
  cases hlimiter : client.limiter with
  | none => exact Act.tells_pure (.inl ⟨rfl, rfl, rfl⟩)
  | some limiter =>
    refine Act.tells_ask rfl fun w =>
      ⟨.shows c.start response (limiter.update c.start clock response w).1, rfl,
        ⟨limiter, hlimiter, ?_⟩, .inr ⟨rfl, _, rfl, ?_⟩⟩ <;>
      rcases limiter.update c.start clock response w with ⟨(refusal | crash) | ⟨⟩, w'⟩ <;> rfl

/-- The limiter is shown a response when it comes. -/
theorem learn_replies {t : Instant} {d : Delivery} {response : Response}
    (hresult : d.result = .ok response) (clock : Clock) (hnow : clock.now = t.wake d.after) :
    (client.learn c clock response).Tells client clock fun words answer =>
      let tale := (t, .sends c.request d) :: spoken clock.now words
      (∃ refusal, answer = .ok refusal ∧ client.Replies c tale (.heard response refusal)) ∨
        ∃ crash, answer = .crashed crash ∧ client.Replies c tale (.crashed crash) := by
  refine (client.learn_tells c clock response).mono ?_
  rintro _ _ (⟨hlimiter, rfl, rfl⟩ | ⟨hlimiter, said, rfl, rfl⟩)
  · exact .inl ⟨none, rfl, .free hlimiter hresult⟩
  · have hshown : client.Replies c ((t, .sends c.request d) :: spoken clock.now
        [.shows c.start response said]) (.ofAnswer response said) := by
      rw [hnow]
      exact .shown hlimiter hresult
    rcases said with (refusal | crash) | ⟨⟩
    · exact .inl ⟨some refusal, rfl, hshown⟩
    · exact .inr ⟨crash, rfl, hshown⟩
    · exact .inl ⟨none, rfl, hshown⟩

/-- What a sending comes to : the request is to be sent again, or it was sent for the last time. -/
def Lands (n : Nat) (tale : Tale) : Answer Failure Progress → Prop
  | .ok (.waits c' _ wait) => c' = c ∧ wait = .pause n ∧ n < maxRetries ∧
      ∃ reply, client.Replies c tale reply ∧ ¬client.Final reply
  | .ok (.answered response) => client.Ends c cancel n tale (.ok response)
  | .error stop => client.Ends c cancel n tale (.error stop)

theorem settle_tells {n : Nat} {tale : Tale} {response : Response}
    {refusal : Option Limiter.Refusal} (hreplies : client.Replies c tale (.heard response refusal))
    (hn : n ≤ maxRetries) (clock : Clock) :
    (client.settle c clock n response refusal).Tells client clock fun words answer =>
      words = [] ∧ client.Lands c cancel n tale answer := by
  by_cases hlast : client.Final (.heard response refusal) ∨ n = maxRetries
  · have hends : client.Ends c cancel n tale _ := .decided hreplies hlast
    rw [client.settle_of_final hlast]
    generalize verdict c (.heard response refusal) = answer at hends ⊢
    rcases answer with stop | response
    · exact Act.tells_throw ⟨rfl, hends⟩
    · exact Act.tells_pure ⟨rfl, hends⟩
  · obtain ⟨hreply, hleft⟩ := not_or.1 hlast
    have hleft : n < maxRetries := Nat.lt_of_le_of_ne hn hleft
    rw [client.settle_of_not_final hreply hleft]
    exact (client.sayStep_traces c clock _).andThen
      (Act.tells_pure ⟨rfl, rfl, rfl, hleft, _, hreplies, hreply⟩)

theorem land_tells {n : Nat} {t : Instant} {d : Delivery} (hn : n ≤ maxRetries) (clock : Clock)
    (hnow : clock.now = t.wake d.after) :
    (client.land c clock n d.result).Tells client clock fun words =>
      client.Lands c cancel n ((t, .sends c.request d) :: spoken clock.now words) := by
  cases hresult : d.result with
  | error timeout => exact Act.tells_fail (.decided (.fault hresult) (.inl trivial))
  | ok response =>
    refine (client.learn_replies c hresult clock hnow).bind ?_ ?_
    · rintro words stop (⟨refusal, ⟨⟩, -⟩ | ⟨crash, ⟨⟩, hreplies⟩)
      exact Ends.decided hreplies (.inl trivial)
    · rintro words refusal (⟨_, ⟨⟩, hreplies⟩ | ⟨crash, ⟨⟩, -⟩)
      refine (client.settle_tells c cancel hreplies hn clock).mono ?_
      rintro _ answer ⟨rfl, hlands⟩
      rwa [List.append_nil]

/-- A response is read for a trace of its body. -/
theorem shown_does (clock : Clock) (response : Response) (w : σ) :
    (if c.debug then c.sayResponse client.digest response else pure response :
      Act σ Response).Does client clock w []
        ((c.shown? response).elim (.fail (.transport false)) .ok) w := by
  unfold Call.shown? Call.sayResponse
  cases c.debug with
  | false => exact Act.does_pure response
  | true =>
    refine (Act.does_traces _).bind ?_
    cases c.verbose with
    | false => exact Act.does_pure response
    | true =>
      cases response.body with
      | none => exact Act.does_throw _
      | some body => exact (client.sayBody_traces c clock _ _ _ w).bind (Act.does_pure _)

/-- A call that has its response shows it to the observers. -/
theorem conclude_tells (now : Instant) (clock : Clock) (response : Response) :
    (client.conclude c now response).Tells client clock fun words answer => ∃ answer',
      answer = answer'.map .answered ∧ client.Concludes c response words answer' := by
  refine Act.Traces.andThen ((Act.traces_record _).onlyIf _) fun w => ?_
  have hread := client.shown_does c clock response w
  cases hshown : c.shown? response with
  | none =>
    rw [hshown] at hread
    exact ⟨_, _, _, hread.bind_error _, .fail (.transport false), rfl, .unread hshown⟩
  | some shown =>
    rw [hshown] at hread
    have htold := client.askObservers_tells clock (·.didReceive c.request shown)
      (.didReceive · c.request shown ·) (fun _ => rfl) (fun _ _ => rfl)
      fun _ o _ ho => ⟨o, ho, rfl⟩
    obtain ⟨words, answer, w', hdoes, hwords⟩ := htold w
    have hconcludes : client.Concludes c response words (answer.map fun _ => shown) :=
      .told hshown hwords
    rcases answer with stop | ⟨⟩
    · exact ⟨_, _, _, hread.bind (hdoes.bind_error _), _, rfl, hconcludes⟩
    · refine ⟨_, _, _, hread.bind (hdoes.bind (Act.does_pure _)), .ok shown, rfl, ?_⟩
      rwa [List.append_nil]

variable {client} {c} {id} {request} {start} {cancel}

theorem Underway.le {n : Nat} {tale : Tale} (h : client.Underway c id request start n tale) :
    n ≤ maxRetries := by
  obtain ⟨-, hexchanges⟩ := h
  cases hexchanges with
  | nil => exact Nat.zero_le _
  | snoc _ _ _ hleft => exact hleft

theorem Underway.snoc {n : Nat} {tale more : Tale} {reply : Reply}
    (h : client.Underway c id request start n tale) (hreplies : client.Replies c more reply)
    (hreply : ¬client.Final reply) (hleft : n < maxRetries) :
    client.Underway c id request start (n + 1) (tale ++ more) := by
  obtain ⟨hannounced, hexchanges⟩ := h
  rw [List.append_assoc]
  exact ⟨hannounced, hexchanges.snoc hreplies hreply hleft⟩

/-- A failure of a call that is under way is told to the observers. -/
theorem Underway.fail_tells {α : Type} {n : Nat} {tale last : Tale} {f : Failure}
    (h : client.Underway c id request start n tale)
    (hends : client.Ends c cancel n last (.fail f)) (clock : Clock) :
    (client.tellFailure c f >>= fun _ => Act.fail f : Act σ α).Tells client clock
      fun words answer => ∃ stop, answer = .error stop ∧ client.Chronicle id request start cancel
        (tale ++ last ++ spoken clock.now words) (.error stop) := by
  refine (client.tellFailure_tells clock c f).bind ?_ ?_
  · rintro words stop ⟨(⟨⟨⟩⟩ | crash) | ⟨⟩, hfails, ⟨⟩⟩
    exact ⟨_, rfl, .failedTwice h hends hfails⟩
  · rintro words ⟨⟩ ⟨(⟨⟨⟩⟩ | crash) | ⟨⟩, hfails, ht⟩
    · cases ht
    rw [← List.append_nil words] at hfails
    exact Act.tells_fail ⟨_, rfl, .failed h hends hfails⟩

/-- A call that is under way sends its request, unless it is canceled. -/
theorem Underway.send_tells {n : Nat} {tale : Tale}
    (h : client.Underway c id request start n tale) (clock : Clock) {canceled : Bool}
    (hcancel : canceled = true → cancel.isSome) :
    ((client.send c clock canceled n).beforeFailing (client.tellFailure c)).Tells client clock
      fun words => client.Stands id request start cancel (tale ++ spoken clock.now words) := by
  refine (client.send_tells c clock canceled n).beforeFailing ?_ ?_ ?_
  · rintro words progress (⟨-, -, ⟨⟩⟩ | ⟨d, rfl, ⟨⟩⟩)
    exact .flight h
  · rintro words crash (⟨-, -, ⟨⟩⟩ | ⟨d, -, ⟨⟩⟩)
  · rintro words f (⟨hcanceled, rfl, ⟨⟩⟩ | ⟨d, -, ⟨⟩⟩)
    refine (h.fail_tells (.canceled (hcancel hcanceled)) clock).mono ?_
    rintro words _ ⟨stop, rfl, hchronicle⟩
    rwa [List.append_nil] at hchronicle

theorem Admitted.launch_tells {next : Option Instant} {tale : Tale}
    (h : client.Admitted c id request start next tale) (clock : Clock) {canceled : Bool}
    (hcancel : canceled = true → cancel.isSome) :
    (client.launch c clock canceled).Tells client clock
      fun words => client.Stands id request start cancel (tale ++ spoken clock.now words) := by
  refine (client.announce_tells c clock).bind (fun words stop hwills => .vetoed h hwills) ?_
  rintro words ⟨⟩ hwills
  have hunderway : client.Underway c id request start 0 (tale ++ spoken clock.now words ++ []) :=
    ⟨⟨h, hwills⟩, .nil⟩
  rw [List.append_nil] at hunderway
  refine (hunderway.send_tells clock hcancel).mono fun more answer hstands => ?_
  rwa [spoken_append, ← List.append_assoc]

theorem Admitted.enter_tells {next wake : Option Instant} {tale : Tale}
    (h : client.Admitted c id request start next tale) (hwake : wake.isSome → next.isSome)
    (clock : Clock) {canceled : Bool} (hcancel : canceled = true → cancel.isSome) :
    (client.enter c clock canceled wake).Tells client clock
      fun words => client.Stands id request start cancel (tale ++ spoken clock.now words) := by
  cases wake with
  | none => exact h.launch_tells clock hcancel
  | some wake =>
    obtain ⟨next, rfl⟩ := Option.isSome_iff_exists.1 (hwake rfl)
    rw [← List.append_nil tale] at h
    exact Act.tells_ite (fun hcanceled => Act.tells_fail (.canceled h (hcancel hcanceled)))
      fun _ => Act.tells_pure (.gate h)

variable (client) (id) (request) in
/-- A call begins with its chronicle. -/
theorem begin_tells (clock : Clock) {canceled : Bool} (hcancel : canceled = true → cancel.isSome) :
    (client.begin id request clock canceled).Tells client clock
      fun words => client.Stands id request clock.now cancel (spoken clock.now words) := by
  refine (client.prepare_tells id request clock).bind (fun _ _ => .unprepared) fun words c hc => ?_
  refine (client.askNext_tells c clock).bind (fun _ _ => .barred hc) fun words' next hnext => ?_
  refine (client.atGate_tells c clock next).bind ?_ ?_
  · rintro _ _ ⟨-, _, ⟨⟩, -⟩
  · rintro _ wake ⟨rfl, _, ⟨⟩, hwake⟩
    refine (Admitted.intro hc hnext).enter_tells hwake clock hcancel |>.mono
      fun more answer hstands => ?_
    simpa using hstands

/-- A call goes on with its chronicle at the end of a wait, or when it is canceled. -/
theorem Standing.resume_tells {tale : Tale} {wake : Instant} {wait : Wait}
    (h : client.Standing c id request start tale wake wait) (clock : Clock) {canceled : Bool}
    (hcancel : canceled = true → cancel.isSome) (hwake : canceled = false → clock.now = wake) :
    (client.resume c wait clock canceled).Tells client clock
      fun words => client.Stands id request start cancel (tale ++ spoken clock.now words) := by
  cases h with
  | gate hadmitted =>
    refine Act.tells_ite (fun hcanceled => Act.tells_fail ?_) fun _ =>
      hadmitted.launch_tells clock hcancel
    rw [spoken_nil, List.append_nil]
    exact .canceled hadmitted (hcancel hcanceled)
  | pause hunderway => exact hunderway.send_tells clock hcancel
  | @flight n tale t d hunderway =>
    have hlands : (if canceled then Act.fail .canceled else client.land c clock n d.result :
        Act σ Progress).Tells client clock fun words =>
          client.Lands c cancel n ((t, .sends c.request d) :: spoken clock.now words) := by
      refine Act.tells_ite (fun hcanceled => Act.tells_fail (.cut (hcancel hcanceled)))
        fun hcanceled => ?_
      exact client.land_tells c cancel hunderway.le clock (hwake (Bool.not_eq_true _ ▸ hcanceled))
    have htold : ((if canceled then Act.fail .canceled else client.land c clock n d.result :
        Act σ Progress).beforeFailing (client.tellFailure c)).Tells client clock
          fun words answer =>
            let last := (t, .sends c.request d) :: spoken clock.now words
            match answer with
            | .ok progress => client.Lands c cancel n last (.ok progress)
            | .error stop =>
              client.Chronicle id request start cancel (tale ++ last) (.error stop) := by
      refine hlands.beforeFailing (fun _ _ h => h) (fun _ crash hends => ?_) fun words f hends => ?_
      · exact .crashed hunderway hends
      · refine (hunderway.fail_tells hends clock).mono ?_
        rintro more _ ⟨stop, rfl, hchronicle⟩
        simpa using hchronicle
    refine htold.bind (fun words stop hchronicle => ?_) fun words progress hlands => ?_
    · simpa [Stands] using hchronicle
    match progress with
    | .waits c' wake wait =>
      obtain ⟨rfl, rfl, hleft, reply, hreplies, hreply⟩ := hlands
      refine Act.tells_pure (.pause ?_)
      simpa using hunderway.snoc hreplies hreply hleft
    | .answered response =>
      refine (client.conclude_tells c clock.now clock response).mono ?_
      rintro more _ ⟨answer, rfl, hconcludes⟩
      have hchronicle := Chronicle.concluded (t := clock.now) hunderway hlands hconcludes
      rcases answer with stop | response <;> simpa [Stands, Except.map] using hchronicle

/-! ## Runs -/

/-- Whether the moment of cancellation is past. -/
def isPast (cancel : Option Instant) (now : Instant) : Bool :=
  match cancel with
  | some t => decide (t ≤ now)
  | none => false

variable (client) (id) (request) (cancel) in
/-- A call that runs is begun and then followed through its waits. -/
theorem run_eq_follow (s : Scene σ) :
    client.run id request cancel s =
      let begun := s.perform (client.begin id request s.clock (isPast cancel s.clock.now))
      let ended := client.follow cancel maxWaits begun.1 begun.2
      (result? ended.1, ended.2) :=
  rfl

/-- A call that is followed goes on with its chronicle. -/
theorem Stands.follow (s : Scene σ) (n : Nat) :
    ∀ (tale : Tale) (progress : Answer Failure Progress) (s' : Scene σ),
      client.Stands id request start cancel tale progress → s.Recounts client tale s' →
      ∃ tale', let followed := client.follow cancel n progress s'
        client.Stands id request start cancel tale' followed.1 ∧
          s.Recounts client tale' followed.2 := by
  induction n with
  | zero => exact fun tale progress s' hstands hrecounts => ⟨tale, hstands, hrecounts⟩
  | succ n ih =>
    intro tale progress s' hstands hrecounts
    match progress with
    | .ok (.waits c wake wait) =>
      have hcancel : (wakeUp s'.clock.now wake cancel).2 = true → cancel.isSome := by
        cases cancel <;> simp [wakeUp]
      have hwake : (wakeUp s'.clock.now wake cancel).2 = false →
          (wakeUp s'.clock.now wake cancel).1 = wake := by
        unfold wakeUp
        split
        · split <;> simp
        · simp
      generalize hup : wakeUp s'.clock.now wake cancel = up at hcancel hwake
      obtain ⟨words, hrecounts', hstands'⟩ := (hrecounts.later up.1).perform
        (hstands.resume_tells (s'.later up.1).clock hcancel hwake)
      simp only [Client.follow, hup]
      exact ih _ _ _ hstands' hrecounts'
    | .ok (.answered _) | .error _ => exact ⟨tale, hstands, hrecounts⟩

variable (client) (id) (request) (cancel)

/-- A run of a call is told by a chronicle to its end, which ends in what the run comes to. -/
theorem exists_chronicle (s : Scene σ) :
    ∃ tale result, (client.run id request cancel s).1 = some result ∧
      s.Recounts client tale (client.run id request cancel s).2 ∧
      client.Chronicle id request s.clock.now cancel tale result := by
  have hcancel : isPast cancel s.clock.now = true → cancel.isSome := by
    cases cancel <;> simp [isPast]
  obtain ⟨words, hrecounts, hstands⟩ :=
    (Scene.Recounts.refl s).perform (client.begin_tells id request s.clock hcancel)
  obtain ⟨tale, hstands, hrecounts⟩ := hstands.follow s maxWaits _ _ _ hrecounts
  have hended := client.isSome_run id request cancel s
  rw [run_eq_follow] at hended ⊢
  simp only at hended hstands hrecounts ⊢
  generalize client.follow cancel maxWaits _ _ = ended at hended hstands hrecounts ⊢
  obtain ⟨stop | ⟨c, wake, wait⟩ | response, s'⟩ := ended
  · exact ⟨tale, .error stop, rfl, hrecounts, hstands⟩
  · cases hended
  · exact ⟨tale, .ok response, rfl, hrecounts, hstands⟩

end Client

end Courier
