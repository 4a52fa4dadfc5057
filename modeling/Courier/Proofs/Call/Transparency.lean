import Courier.Call.Exec
import Courier.Proofs.Call.Agreement
import Courier.Proofs.Call.Chronicle
import Courier.Proofs.Call.Failing
import Courier.Proofs.Quota.Rolling

/-!
# Tracing changes nothing

Tracing does two things beside writing lines : it asks the limiter what is left before it asks when
the call may go on, and it reads the body of a response and puts the response together again. The
first makes no difference to a limiter that is tame (`Limiter.Tame`). The second changes nothing of
a response but its announced size (`Response.Alike`). That makes no difference to the observers if
they do not look at it, or if the response has announced the size of its body
(`Client.Steady.of_size`), and if the body can be read at all (`Client.Legible`).

Calls that differ in what is traced alone are taken side by side, piece by piece
(`Client.begin_agrees`, `Client.resume_agrees`) and from wait to wait (`Client.follow_beside`). So
calls do the same whatever is traced (`Client.tracing_transparent`). Where an observer looks at the
announced size, a call may succeed untraced and fail traced (`Client.wary_not_transparent`).
-/

namespace Courier

/-- Responses that can be read and differ in their announced size alone. -/
def Response.Alike (r r' : Response) : Prop :=
  r.body.isSome ∧ r.plain = r'.plain

/-- Calls that differ in what is traced alone. -/
def Call.Alike (c c' : Call) : Prop :=
  ∃ verbose debug, c' = { c with verbose, debug }

namespace Client

open Call (Progress Wait)

variable {σ : Type}

/-- A response can be read, and is the same to the observers when it was put together again. -/
def Steady (client : Client σ) (response : Response) : Prop :=
  ∃ body, response.body = some body ∧ ∀ o ∈ client.observers, ∀ request,
    o.didReceive request (response.restored body) = o.didReceive request response

/-- A response that announces the size of its body is put together again as it was. -/
theorem Steady.of_size (client : Client σ) {response : Response} {body : Bytes}
    (hbody : response.body = some body) (hsize : response.size = some body.length) :
    client.Steady response := by
  have hsame : response.restored body = response := by
    rw [Response.restored, ← hbody, ← hsize]
  exact ⟨body, hbody, fun _ _ _ => by rw [hsame]⟩

/-- Collaborators of a client for whom it makes no difference whether a body was read before. In
worlds of a kind, which they do not leave, all responses are steady. -/
structure Legible (client : Client σ) (I : σ → Prop) : Prop where
  kept : ∀ clock w word w', I w → client.Says clock w word w' → I w'
  steady : ∀ now request w response, I w →
    (client.transport now request w).1.result = .ok response → client.Steady response

/-- Calls of a client have come equally far : they wait for the same, which is steady, or they have
answers that are related. -/
inductive Abreast (client : Client σ) (R : Response → Response → Prop) :
    Progress → Progress → Prop where
  | waits {c c' : Call} {wake : Instant} {wait : Wait} (hcalls : c.Alike c')
      (hsteady : ∀ n response, wait = .flight n (.ok response) → client.Steady response) :
      Abreast client R (.waits c wake wait) (.waits c' wake wait)
  | answered {response response' : Response} (h : R response response') :
      Abreast client R (.answered response) (.answered response')

variable {client : Client σ} {I : σ → Prop} {c c' : Call} {clock : Clock} {w : σ}
  {R : Response → Response → Prop}

theorem Legible.does {α : Type} {act : Act σ α} {words : List Word} {answer : Answer Failure α}
    {w' : σ} (h : client.Legible I) (hw : I w) (hact : act.Does client clock w words answer w') :
    I w' := by
  obtain ⟨-, -, -, hpath⟩ := hact
  exact hpath.invariant (I := fun _ w => I w) hw fun _ _ _ _ hw hspoken => h.kept _ _ _ _ hw hspoken

theorem Legible.recounts {s s' : Scene σ} {tale : Tale} (h : client.Legible I) (hs : I s.world)
    (hrecounts : s.Recounts client tale s') : I s'.world :=
  hrecounts.said.invariant (I := fun _ w => I w) hs fun _ _ _ _ hw hspoken =>
    h.kept _ _ _ _ hw hspoken

/-! ## Pieces of calls -/

theorem prepare_agrees (client : Client σ) (t t' : Tracing) (id : Nat) (request : Request)
    (clock : Clock) (w : σ) :
    ({ client with tracing := t }.prepare id request clock).Agrees client clock w
      ({ client with tracing := t' }.prepare id request clock) Call.Alike := by
  unfold prepare
  cases request.resolve client.base with
  | error f => exact Act.agrees_throw _
  | ok resolved =>
    cases hauthorizer : client.authorizer with
    | none => exact Act.agrees_pure ⟨_, _, rfl⟩
    | some authorizer =>
      have hspoken : client.Says clock w (.authorizes resolved (authorizer resolved w).1)
        (authorizer resolved w).2 := ⟨authorizer, hauthorizer, rfl⟩
      exact Act.agrees_ask_bind _ rfl rfl rfl hspoken fun _ _ => Act.agrees_pure ⟨_, _, rfl⟩

/-- A call that asks the limiter what is left goes on as one that does not. -/
theorem askNext_does {limiter : Limiter σ} (hlimiter : client.limiter = some limiter)
    (clock : Clock) (c : Call) (htame : limiter.Tame c.start w) :
    ∃ words, let said := limiter.next c.start c.request w
      (client.askNext c).Does client clock w words
        ((said.1.mapError (Act.stopped c.refused)).map some) said.2 ∧
      lasting words = [.asksNext c.start c.request said.1] := by
  unfold askNext
  rw [hlimiter]
  cases hverbose : c.verbose with
  | false => exact ⟨_, client.asksNext_does c hlimiter clock rfl, rfl⟩
  | true =>
    obtain ⟨report, w', hreport, hnext⟩ := htame.next_report c.request
    exact ⟨_, (client.sayReport_does c hlimiter clock hreport).bind
      (client.asksNext_does c hlimiter clock hnext), rfl⟩

theorem askNext_agrees (hcalls : c.Alike c') (clock : Clock)
    (htame : ∀ limiter, client.limiter = some limiter → limiter.Tame c.start w) :
    (client.askNext c).Agrees client clock w (client.askNext c') Eq := by
  obtain ⟨verbose, debug, rfl⟩ := hcalls
  cases hlimiter : client.limiter with
  | none =>
    unfold askNext
    rw [hlimiter]
    exact Act.agrees_pure rfl
  | some limiter =>
    obtain ⟨words, hdoes, hwords⟩ := askNext_does hlimiter clock c (htame limiter hlimiter)
    obtain ⟨words', hdoes', hwords'⟩ :=
      askNext_does hlimiter clock { c with verbose, debug } (htame limiter hlimiter)
    refine ⟨_, _, _, _, _, hdoes, hdoes', hwords.trans hwords'.symm, ?_⟩
    exact Answer.matches_self _

theorem atGate_agrees (client : Client σ) (hcalls : c.Alike c') (clock : Clock)
    (next : Option Instant) (w : σ) :
    (atGate c clock next : Act σ (Option Instant)).Agrees client clock w (atGate c' clock next)
      Eq := by
  obtain ⟨verbose, debug, rfl⟩ := hcalls
  exact Act.agrees_ite (fun _ => Act.agrees_pure rfl) fun _ =>
    (Act.agrees_pure rfl).traced (client.sayStep_traces _ clock _) (client.sayStep_traces _ clock _)

theorem announce_agrees (hcalls : c.Alike c') (clock : Clock) (w : σ) :
    (client.announce c).Agrees client clock w (client.announce c') Eq := by
  obtain ⟨verbose, debug, rfl⟩ := hcalls
  have hasked := client.askObservers_tells clock (·.willSend c.request) (.willSend · c.request ·)
    (fun _ => rfl) (fun _ _ => rfl) fun _ o _ ho => ⟨o, ho, rfl⟩
  refine (hasked.agrees w).bind fun _ _ _ w' _ _ => ?_
  have htraces (c : Call) : (Act.onlyIf (c.verbose || c.debug) (c.say c.line) >>= fun _ =>
      Act.onlyIf c.debug (c.sayRequest client.digest)).Traces client clock :=
    ((Act.traces_record _).onlyIf _).andTraces ((client.sayRequest_traces c clock).onlyIf _)
  exact (htraces c).agrees (htraces { c with verbose, debug }) w'

theorem tellFailure_agrees (hcalls : c.Alike c') (clock : Clock) (f : Failure) (w : σ) :
    (client.tellFailure c f).Agrees client clock w (client.tellFailure c' f) fun _ _ => True := by
  obtain ⟨verbose, debug, rfl⟩ := hcalls
  exact ((client.tellFailure_tells clock c f).agrees w).mono fun _ _ _ => trivial

theorem send_agrees (h : client.Legible I) (hw : I w) (hcalls : c.Alike c') (clock : Clock)
    (canceled : Bool) (attempt : Nat) :
    (client.send c clock canceled attempt).Agrees client clock w
      (client.send c' clock canceled attempt) (client.Abreast R) := by
  obtain ⟨verbose, debug, rfl⟩ := hcalls
  refine Act.agrees_ite (fun _ => Act.agrees_throw _) fun _ => ?_
  rcases hsent : client.transport clock.now c.request w with ⟨delivery, w'⟩
  have hspoken : client.Says clock w (.sends c.request delivery) w' := hsent
  refine Act.agrees_ask_bind _ rfl rfl (by rw [hsent]) hspoken
    fun d (hd : (.ok delivery : Answer Empty Delivery) = .ok d) => Act.agrees_pure ?_
  cases hd
  refine .waits ⟨verbose, debug, rfl⟩ fun _ response hflight => ?_
  refine h.steady clock.now c.request w response hw ?_
  rw [hsent]
  exact (Wait.flight.inj hflight).2

theorem sendOff_agrees (h : client.Legible I) (hw : I w) (hcalls : c.Alike c') (clock : Clock)
    (canceled : Bool) (attempt : Nat) :
    ((client.send c clock canceled attempt).beforeFailing (client.tellFailure c)).Agrees client
      clock w ((client.send c' clock canceled attempt).beforeFailing (client.tellFailure c'))
      (client.Abreast R) :=
  (send_agrees h hw hcalls clock canceled attempt).beforeFailing
    (tellFailure_agrees hcalls clock)

theorem launch_agrees (h : client.Legible I) (hw : I w) (hcalls : c.Alike c') (clock : Clock)
    (canceled : Bool) :
    (client.launch c clock canceled).Agrees client clock w (client.launch c' clock canceled)
      (client.Abreast R) :=
  (announce_agrees hcalls clock w).bind fun _ _ _ _ hdoes _ =>
    sendOff_agrees h (h.does hw hdoes) hcalls clock canceled 0

theorem enter_agrees (h : client.Legible I) (hw : I w) (hcalls : c.Alike c') (clock : Clock)
    (canceled : Bool) (wake : Option Instant) :
    (client.enter c clock canceled wake).Agrees client clock w (client.enter c' clock canceled wake)
      (client.Abreast R) :=
  match wake with
  | none => launch_agrees h hw hcalls clock canceled
  | some _ => Act.agrees_ite (fun _ => Act.agrees_throw _) fun _ =>
    Act.agrees_pure (.waits hcalls nofun)

theorem begin_agrees (h : client.Legible I) (hw : I w) (t t' : Tracing) (id : Nat)
    (request : Request) (clock : Clock) (canceled : Bool)
    (htame : ∀ words c w' limiter,
      ({ client with tracing := t }.prepare id request clock).Does client clock w words (.ok c) w' →
        client.limiter = some limiter → limiter.Tame c.start w') :
    ({ client with tracing := t }.begin id request clock canceled).Agrees client clock w
      ({ client with tracing := t' }.begin id request clock canceled) (client.Abreast R) := by
  refine (prepare_agrees client t t' id request clock w).bind fun _ c c' w₁ hprepare hcalls => ?_
  have hw₁ := h.does hw hprepare
  refine (askNext_agrees hcalls clock fun l => htame _ _ _ l hprepare).bind ?_
  rintro _ next _ w₂ hnext rfl
  have hw₂ := h.does hw₁ hnext
  refine (atGate_agrees client hcalls clock next w₂).bind ?_
  rintro _ wake _ w₃ hwake rfl
  exact enter_agrees h (h.does hw₂ hwake) hcalls clock canceled wake

theorem putOff_agrees (client : Client σ) (hcalls : c.Alike c') (clock clock' : Clock)
    (attempt : Nat) (delay : Duration) (why : String) (w : σ) :
    (putOff c clock' attempt delay why : Act σ Progress).Agrees client clock w
      (putOff c' clock' attempt delay why) (client.Abreast R) :=
  (Act.agrees_pure (.waits hcalls nofun)).traced (client.sayStep_traces _ clock _)
    (client.sayStep_traces _ clock _)

theorem settle_agrees (hcalls : c.Alike c') (clock : Clock) (attempt : Nat) {response : Response}
    (hsteady : client.Steady response) (refusal : Option Limiter.Refusal) (w : σ) :
    (client.settle c clock attempt response refusal).Agrees client clock w
      (client.settle c' clock attempt response refusal)
      (client.Abreast fun r r' => r = r' ∧ client.Steady r) := by
  have hput := putOff_agrees client (R := fun r r' => r = r' ∧ client.Steady r) hcalls clock clock
    attempt
  obtain ⟨verbose, debug, rfl⟩ := hcalls
  unfold settle
  split
  · exact Act.agrees_ite (fun _ => Act.agrees_throw _) fun _ => hput _ _ w
  · refine Act.agrees_ite (fun _ => hput _ _ w) fun _ => ?_
    refine Act.agrees_ite (fun _ => Act.agrees_throw _) fun _ => ?_
    split
    · exact Act.agrees_throw _
    · exact Act.agrees_pure (.answered ⟨rfl, hsteady⟩)

theorem land_agrees (hcalls : c.Alike c') (clock : Clock) (attempt : Nat)
    {result : Except Bool Response}
    (hsteady : ∀ response, result = .ok response → client.Steady response) (w : σ) :
    (client.land c clock attempt result).Agrees client clock w
      (client.land c' clock attempt result)
      (client.Abreast fun r r' => r = r' ∧ client.Steady r) := by
  cases result with
  | error timeout => exact Act.agrees_throw _
  | ok response =>
    have hsettle := settle_agrees hcalls clock attempt (hsteady response rfl)
    -- what the limiter is told of a call, its start, is not what is traced
    obtain ⟨verbose, debug, rfl⟩ := hcalls
    refine ((client.learn_tells c clock response).agrees w).bind ?_
    rintro _ refusal _ w' _ rfl
    exact hsettle refusal w'

/-! ## The end of a call -/

/-- Responses that are alike, and the same to the observers. -/
structure Alike (client : Client σ) (response response' : Response) : Prop where
  alike : response.Alike response'
  told : ∀ o ∈ client.observers, ∀ request,
    o.didReceive request response = o.didReceive request response'

theorem Alike.both {response shown shown' : Response} (h : client.Alike response shown)
    (h' : client.Alike response shown') : client.Alike shown shown' := by
  obtain ⟨⟨hbody, hplain⟩, htold⟩ := h
  have hshown : shown.plain.body.isSome := by
    rw [← hplain]
    exact hbody
  exact ⟨⟨hshown, hplain.symm.trans h'.alike.2⟩, fun o ho request =>
    (htold o ho request).symm.trans (h'.told o ho request)⟩

/-- A body that is read for a trace is not lost. -/
theorem Steady.exists_shown {response : Response} (h : client.Steady response) (c : Call) :
    ∃ shown, c.shown? response = some shown ∧ client.Alike response shown := by
  obtain ⟨body, hbody, htold⟩ := h
  have hsome : response.body.isSome := by rw [hbody]; rfl
  unfold Call.shown?
  split
  · refine ⟨response.restored body, by rw [hbody]; rfl, ⟨hsome, ?_⟩, fun o ho request =>
      (htold o ho request).symm⟩
    simp [Response.plain, Response.restored, hbody]
  · exact ⟨response, rfl, ⟨hsome, rfl⟩, fun _ _ _ => rfl⟩

theorem shown_agrees {response : Response} (h : client.Steady response) (c c' : Call)
    (clock : Clock) (w : σ) :
    (if c.debug then c.sayResponse client.digest response else pure response :
      Act σ Response).Agrees client clock w
        (if c'.debug then c'.sayResponse client.digest response else pure response)
          client.Alike := by
  obtain ⟨shown, hshown, halike⟩ := h.exists_shown c
  obtain ⟨shown', hshown', halike'⟩ := h.exists_shown c'
  have hread := client.shown_does c clock response w
  have hread' := client.shown_does c' clock response w
  rw [hshown] at hread
  rw [hshown'] at hread'
  exact ⟨_, _, _, _, _, hread, hread', rfl, .ok (halike.both halike')⟩

/-- Observers are told of a response whether it was put together again or not. -/
theorem didReceive_agrees (request : Outgoing) {response response' : Response}
    (hresponse : client.Alike response response') (clock : Clock) (w : σ) :
    (client.askObservers (.didReceive · request response.status)
      (·.didReceive request response)).Agrees client clock w
        (client.askObservers (.didReceive · request response'.status)
          (·.didReceive request response')) fun _ _ => True := by
  have hplain := hresponse.alike.2
  have hstatus : response.plain.status = response'.plain.status := by rw [hplain]
  refine Act.agrees_forM _ w fun (o, i) hmem w => ?_
  have ho : client.observers[i]? = some o := List.mk_mem_zipIdx_iff_getElem?.1 hmem
  have hsame : o.didReceive request response = o.didReceive request response' :=
    hresponse.told o (List.mem_of_getElem? ho) request
  rcases hsaid : o.didReceive request response w with ⟨answer, w'⟩
  have hspoken : client.Says clock w (.didReceive i request response answer) w' := ⟨o, ho, hsaid⟩
  have hspoken' : client.Says clock w (.didReceive i request response' answer) w' :=
    ⟨o, ho, hsame ▸ hsaid⟩
  refine ⟨_, _, _, _, _, Act.does_ask id rfl rfl hsaid hspoken,
    Act.does_ask id rfl rfl (hsame ▸ hsaid) hspoken', ?_, ?_⟩
  · simp [lasting, Word.lasting?, hplain]
  · exact (Answer.matches_self _).mono fun _ _ _ => trivial

theorem conclude_agrees (hcalls : c.Alike c') (now : Instant) {response : Response}
    (hsteady : client.Steady response) (clock : Clock) (w : σ) :
    (client.conclude c now response).Agrees client clock w (client.conclude c' now response)
      (client.Abreast Response.Alike) := by
  obtain ⟨verbose, debug, rfl⟩ := hcalls
  refine Act.Agrees.traced ?_ ((Act.traces_record _).onlyIf _) ((Act.traces_record _).onlyIf _)
  refine (shown_agrees hsteady c _ clock w).bind fun _ shown shown' w' _ hshown => ?_
  exact (didReceive_agrees c.request hshown clock w').bind fun _ _ _ _ _ _ =>
    Act.agrees_pure (.answered hshown.alike)

theorem resume_agrees (h : client.Legible I) (hw : I w) (hcalls : c.Alike c') {wait : Wait}
    (hwait : ∀ n response, wait = .flight n (.ok response) → client.Steady response)
    (clock : Clock) (canceled : Bool) :
    (client.resume c wait clock canceled).Agrees client clock w
      (client.resume c' wait clock canceled) (client.Abreast Response.Alike) := by
  cases wait with
  | gate =>
    exact Act.agrees_ite (fun _ => Act.agrees_throw _) fun _ =>
      launch_agrees h hw hcalls clock canceled
  | pause attempt => exact sendOff_agrees h hw hcalls clock canceled (attempt + 1)
  | flight attempt result =>
    have hlanded : (if canceled then Act.fail .canceled else client.land c clock attempt result :
        Act σ Progress).Agrees client clock w
          (if canceled then Act.fail .canceled else client.land c' clock attempt result)
          (client.Abreast fun r r' => r = r' ∧ client.Steady r) := by
      refine Act.agrees_ite (fun _ => Act.agrees_throw _) fun _ => ?_
      exact land_agrees hcalls clock attempt
        (fun response hresult => hwait _ response (by rw [hresult])) w
    have htold := hlanded.beforeFailing (tellFailure_agrees hcalls clock)
    unfold resume
    refine htold.bind fun _ progress progress' w' _ halike => ?_
    cases halike with
    | waits hcalls hsteady => exact Act.agrees_pure (.waits hcalls hsteady)
    | answered hanswered =>
      obtain ⟨rfl, hsteady⟩ := hanswered
      exact conclude_agrees hcalls clock.now hsteady clock w'

/-! ## Runs -/

/-- Calls that are followed side by side stay side by side. -/
theorem follow_beside (h : client.Legible I) (cancel : Option Instant) {s : Scene σ}
    (hs : I s.world) (n : Nat) :
    ∀ (tale tale' : Tale) (s₁ s₂ : Scene σ) (progress progress' : Answer Failure Progress),
      s.Beside client tale tale' s₁ s₂ →
      progress.Matches (client.Abreast Response.Alike) progress' →
      ∃ tale tale', let followed := client.follow cancel n progress s₁
        let followed' := client.follow cancel n progress' s₂
        s.Beside client tale tale' followed.2 followed'.2 ∧
          followed.1.Matches (client.Abreast Response.Alike) followed'.1 := by
  induction n with
  | zero => exact fun tale tale' s₁ s₂ progress progress' hbeside halike =>
      ⟨tale, tale', hbeside, halike⟩
  | succ n ih =>
    intro tale tale' s₁ s₂ progress progress' hbeside halike
    cases halike with
    | error stop => exact ⟨tale, tale', hbeside, .error stop⟩
    | ok halike =>
      cases halike with
      | answered hresponse => exact ⟨tale, tale', hbeside, .ok (.answered hresponse)⟩
      | @waits c c' wake wait hcalls hsteady =>
        have hlater := hbeside.later (wakeUp s₁.clock.now wake cancel).1
        obtain ⟨more, more', hbeside', halike'⟩ := hlater.perform <|
          resume_agrees h (h.recounts hs hlater.recounts) hcalls hsteady
            (s₁.later (wakeUp s₁.clock.now wake cancel).1).clock
            (wakeUp s₁.clock.now wake cancel).2
        have hstep := ih _ _ _ _ _ _ hbeside' halike'
        have hclock : (s₁.later (wakeUp s₁.clock.now wake cancel).1).clock =
          (s₂.later (wakeUp s₁.clock.now wake cancel).1).clock := hlater.clock
        simp only [follow, ← hbeside.clock, ← hclock]
        exact hstep

variable (client) in
/-- What is traced makes no difference to how a call is followed. -/
theorem follow_tracing (t : Tracing) (cancel : Option Instant) (n : Nat) :
    ∀ (progress : Answer Failure Progress) (s : Scene σ),
      { client with tracing := t }.follow cancel n progress s =
        client.follow cancel n progress s := by
  induction n with
  | zero => exact fun _ _ => rfl
  | succ n ih =>
    rintro (stop | ⟨c, wake, wait⟩ | response) s
    · rfl
    · exact ih _ _
    · rfl

theorem Prepares.start_eq {id : Nat} {request : Request} {start : Instant} {words : List Word}
    {answer : Answer Failure Call} (h : client.Prepares id request start words answer)
    (hc : answer = .ok c) : c.start = start := by
  cases h with
  | unresolved => cases hc
  | bare =>
    cases hc
    rfl
  | @asked resolved answer =>
    rcases answer with stop | authorized <;> cases hc
    rfl

/-- A call comes to its limiter, if it does, in the world that `prepare` leaves. -/
theorem prepare_does (client : Client σ) (t : Tracing) {id : Nat} {request : Request}
    {s : Scene σ} {words : List Word} {w' : σ}
    (h : ({ client with tracing := t }.prepare id request s.clock).Does client s.clock s.world words
      (.ok c) w') :
    c.start = s.clock.now ∧ (s.perform (client.prepare id request s.clock)).2.world = w' := by
  constructor
  · obtain ⟨words', answer, w'', hdoes, hprepares⟩ :=
      { client with tracing := t }.prepare_tells id request s.clock s.world
    exact hprepares.start_eq (hdoes.unique h).1
  · obtain ⟨words', words'', answer, answer', w'', hdoes, hdoes', -⟩ :=
      prepare_agrees client t client.tracing id request s.clock s.world
    obtain ⟨s', hperform, -, hworld, -⟩ := (Scene.Recounts.refl s).perform_does hdoes'
    have hsame : ({ client with tracing := client.tracing } : Client σ) = client := rfl
    rw [hsame] at hperform
    rw [hperform]
    exact hworld.trans (hdoes.unique h).2

/-- What is traced makes no difference to a run. -/
theorem run_beside (h : client.Legible I) (t t' : Tracing) (id : Nat) (request : Request)
    (cancel : Option Instant) {s : Scene σ} (hs : I s.world)
    (htame : ∀ limiter, client.limiter = some limiter →
      limiter.Tame s.clock.now (s.perform (client.prepare id request s.clock)).2.world) :
    let ran := { client with tracing := t }.run id request cancel s
    let ran' := { client with tracing := t' }.run id request cancel s
    ∃ tale tale' result result', ran.1 = some result ∧ ran'.1 = some result' ∧
      s.Beside client tale tale' ran.2 ran'.2 ∧ result.Matches Response.Alike result' := by
  have hbegin (canceled : Bool) := begin_agrees (R := Response.Alike) h hs t t' id request s.clock
    canceled fun words c w' limiter hprepare hlimiter => by
      obtain ⟨hstart, hworld⟩ := prepare_does client t hprepare
      rw [hstart, ← hworld]
      exact htame limiter hlimiter
  obtain ⟨more, more', hbegun, hprogress⟩ :=
    (Scene.Beside.refl s).perform (hbegin (isPast cancel s.clock.now))
  obtain ⟨tale, tale', hbeside, hprogress'⟩ :=
    follow_beside h cancel hs maxWaits _ _ _ _ _ _ hbegun hprogress
  have hended := { client with tracing := t }.isSome_run id request cancel s
  simp only [run_eq_follow, follow_tracing] at hended ⊢
  generalize client.follow cancel maxWaits _ _ = ended at hended hbeside hprogress' ⊢
  generalize client.follow cancel maxWaits _ _ = ended' at hbeside hprogress' ⊢
  obtain ⟨progress, s₁⟩ := ended
  obtain ⟨progress', s₂⟩ := ended'
  refine ⟨tale, tale', ?_⟩
  cases hprogress' with
  | error stop => exact ⟨.error stop, .error stop, rfl, rfl, hbeside, .error stop⟩
  | ok halike =>
    cases halike with
    | waits => cases hended
    | answered hresponse => exact ⟨_, _, rfl, rfl, hbeside, .ok hresponse⟩

/-! ## Values -/

/-- A response decodes to the same whatever is traced. If it does not decode, the failures agree in
all but the body that they keep. -/
theorem decode_alike (client : Client σ) {response response' : Response}
    (hresponse : response.Alike response') (t t' : Tracing) (id : Nat) (method : String)
    (shape : Shape) (now : Instant) :
    let traced := { client with tracing := t }
    let traced' := { client with tracing := t' }
    traced.decode id method shape response now = traced'.decode id method shape response' now ∨
      ∃ entity fault, traced.decode id method shape response now =
          .error (traced.decodeFailure id method response entity fault now) ∧
        traced'.decode id method shape response' now =
          .error (traced'.decodeFailure id method response entity fault now) := by
  intro traced traced'
  have hplain (client : Client σ) (r : Response) :
      client.decode id method shape r now = client.decode id method shape r.plain now := rfl
  have hfailure (client : Client σ) (entity : Entity) (fault : Failure) :
      client.decodeFailure id method response entity fault now =
        client.decodeFailure id method response.plain entity fault now := rfl
  simp only [hplain _ response, hplain _ response', hfailure, hresponse.2]
  unfold decode
  split
  · exact .inl rfl
  · split
    · exact .inl rfl
    · next entity _ =>
      cases Codec.decode entity.contentType shape entity.data with
      | ok value => exact .inl rfl
      | error fault => exact .inr ⟨entity, .ofDecode fault, rfl, rfl⟩

/-- Calls do the same whatever is traced. Runs that are traced differently say the same words to
the collaborators at the same times, with the same answers, but for asking the limiter what is left.
They leave the same world at the same time, with the same events but for the lines of a trace, and
have the same failure or responses that are alike. Calls for a value have the same value or failure,
but for the body that is kept of a response that does not decode. -/
theorem tracing_transparent (h : client.Legible I) (t t' : Tracing) (id : Nat) (request : Request)
    {s : Scene σ} (hs : I s.world)
    (htame : ∀ limiter, client.limiter = some limiter →
      limiter.Tame s.clock.now (s.perform (client.prepare id request s.clock)).2.world) :
    let traced := { client with tracing := t }
    let traced' := { client with tracing := t' }
    (∀ cancel, let ran := traced.run id request cancel s
      let ran' := traced'.run id request cancel s
      ∃ tale tale' result result', ran.1 = some result ∧ ran'.1 = some result' ∧
        result.Matches Response.Alike result' ∧ s.Beside client tale tale' ran.2 ran'.2 ∧
        ran.2.log.lasting = ran'.2.log.lasting) ∧
    ∀ shape, let got := traced.exec id request shape s
      let got' := traced'.exec id request shape s
      ∃ answer answer', got.1 = some answer ∧ got'.1 = some answer' ∧
        (∃ tale tale', s.Beside client tale tale' got.2 got'.2) ∧
        (answer = answer' ∨ ∃ response entity fault,
          answer = .fail (traced.decodeFailure id request.method response entity fault
            got.2.clock.now) ∧
          answer' = .fail (traced'.decodeFailure id request.method response entity fault
            got.2.clock.now)) := by
  intro traced traced'
  refine ⟨fun cancel => ?_, fun shape => ?_⟩
  · obtain ⟨tale, tale', result, result', hresult, hresult', hbeside, hmatches⟩ :=
      run_beside h t t' id request cancel hs htame
    exact ⟨tale, tale', result, result', hresult, hresult', hmatches, hbeside, hbeside.log_eq⟩
  · obtain ⟨tale, tale', result, result', hresult, hresult', hbeside, hmatches⟩ :=
      run_beside h t t' id request none hs htame
    rcases hran : traced.run id request none s with ⟨_, s₁⟩
    rcases hran' : traced'.run id request none s with ⟨_, s₂⟩
    rw [hran] at hresult hbeside
    rw [hran'] at hresult' hbeside
    obtain rfl : _ = some result := hresult
    obtain rfl : _ = some result' := hresult'
    unfold exec
    cases hmatches with
    | error stop =>
      simp only [hran, hran']
      exact ⟨_, _, rfl, rfl, ⟨tale, tale', hbeside⟩, .inl rfl⟩
    | @ok response response' hresponse =>
      have hdecoded := client.decode_alike hresponse t t' id request.method shape s₁.clock.now
      have hclock : s₁.clock = s₂.clock := hbeside.clock
      simp only [hran, hran', ← hclock]
      refine ⟨_, _, rfl, rfl, ⟨tale, tale', hbeside⟩, ?_⟩
      rcases hdecoded with hsame | ⟨entity, fault, hfailed, hfailed'⟩
      · exact .inl (congrArg Answer.ofExcept hsame)
      · exact .inr ⟨response, entity, fault, congrArg Answer.ofExcept hfailed,
          congrArg Answer.ofExcept hfailed'⟩

/-- Without an authorizer nothing happens before the limiter is asked. -/
theorem perform_prepare_world (client : Client σ) (h : client.authorizer = none) (id : Nat)
    (request : Request) (clock : Clock) (s : Scene σ) :
    (s.perform (client.prepare id request clock)).2.world = s.world := by
  unfold prepare
  rw [h]
  cases request.resolve client.base <;> rfl

/-- A client whose limiter is a quota in the world. Its responses do not announce their size. -/
def watched : Client Rehearsal.World where
  base := none
  limiter := some (Rehearsal.World.limiter 0)
  observers := [Rehearsal.Guard.observer {}]
  transport := fun _ _ w => (⟨0, .ok ⟨200, none, {}, some [104, 105], none⟩⟩, w)
  retryStatuses := []
  backoff := 0
  headers := {}
  contentType := ""
  tracing := {}

/-- A quota whose window is over is asked what is left by the first of these runs alone. -/
theorem tracing_transparent_watched :
    let s : Scene Rehearsal.World :=
      { clock := ⟨0, 0⟩, world := { pacers := [.quota {} ⟨1, 0, -7, none⟩] } }
    let ran := { watched with tracing := { debug := true, verbose := true } }.run 0
      { target := "mem:a" } none s
    let ran' := { watched with tracing := {} }.run 0 { target := "mem:a" } none s
    (ran.2.log.length = 12 ∧ ran'.2.log.length = 5) ∧
    ∃ tale tale' result result', ran.1 = some result ∧ ran'.1 = some result' ∧
      result.Matches Response.Alike result' ∧ s.Beside watched tale tale' ran.2 ran'.2 ∧
      ran.2.log.lasting = ran'.2.log.lasting := by
  intro s ran ran'
  refine ⟨by decide +kernel, ?_⟩
  have hlegible : watched.Legible fun _ => True :=
    ⟨fun _ _ _ _ _ _ => trivial, fun _ _ _ _ _ h => by
      cases h
      refine ⟨_, rfl, fun o ho _ => ?_⟩
      obtain rfl := List.mem_singleton.1 ho
      rfl⟩
  have htame (limiter : Limiter Rehearsal.World) (h : watched.limiter = some limiter) :
      limiter.Tame s.clock.now
        (s.perform (watched.prepare 0 { target := "mem:a" } s.clock)).2.world := by
    obtain rfl := Option.some.inj h
    rw [watched.perform_prepare_world rfl]
    exact .quota (Limiter.keeps_slot s.world (by decide) {}) rfl (by decide)
  -- Nothing below is to compute what this client does.
  subst ran ran'
  generalize watched = client at hlegible htame ⊢
  exact (tracing_transparent hlegible _ _ 0 { target := "mem:a" } trivial htame).1 none

/-- A client with an observer that refuses responses of an announced size. Its responses are not of
an announced size. -/
def wary : Client Unit where
  base := none
  observers := [{
    willSend := fun _ w => (.ok (), w)
    didReceive := fun _ response w =>
      (if response.size.isSome then .fail (.observer "sized") else .ok (), w)
    failed := fun _ _ w => (.ok (), w) }]
  transport := fun _ _ w => (⟨0, .ok ⟨200, none, {}, some [104, 105], none⟩⟩, w)
  retryStatuses := []
  backoff := 0
  headers := {}
  contentType := ""
  tracing := {}

/-- A call that succeeds, and fails when the body of its response is traced : the response that was
put together again announces its size. -/
theorem wary_not_transparent :
    let s : Scene Unit := { clock := ⟨0, 0⟩, world := () }
    let ran := wary.run 0 { target := "mem:a" } none s
    let ran' := { wary with tracing := { debug := true, verbose := true } }.run 0
      { target := "mem:a" } none s
    (ran.1.bind Answer.failure? = none ∧ ran'.1.bind Answer.failure? = some (.observer "sized")) ∧
    ¬∃ result result', ran.1 = some result ∧ ran'.1 = some result' ∧
      result.Matches Response.Alike result' := by
  intro s ran ran'
  have hsucceeds : ran.1.bind Answer.failure? = none := by decide +kernel
  have hfails : ran'.1.bind Answer.failure? = some (.observer "sized") := by decide +kernel
  refine ⟨⟨hsucceeds, hfails⟩, ?_⟩
  rintro ⟨result, result', hresult, hresult', hmatches⟩
  rw [hresult] at hsucceeds
  rw [hresult'] at hfails
  cases hmatches with
  | error stop => exact nomatch hsucceeds.symm.trans hfails
  | ok => cases hfails

end Client

end Courier
