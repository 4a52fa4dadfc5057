import Courier.Proofs.Call.Piece

/-!
# The stages of a call in one piece

A call that runs alone and is not canceled can be told without its waits. `Client.approach`
takes it to the moment of its first sending. `Client.exchange` sends its request once, lets the
time pass until something comes of it, and shows the limiter the response. A reply that is not
final puts the call off (`Client.again`) ; a final one, and the reply to the last sending that
`maxRetries` leaves, gives a verdict (`Client.verdict`), which the observers hear
(`Client.finish`).

`Client.sending` counts on without end, as if the request were sent again whatever came of it.
`Client.run_eq` says that a run makes these sendings up to the first with a final reply, or up
to the last that is left, and finishes with the verdict on it.
-/

namespace Courier

/-- What came of sending a request once. -/
inductive Reply where
  /-- The transport gave no response. -/
  | fault (timeout : Bool)
  /-- A response came, and the limiter may have refused it. -/
  | heard (response : Response) (refusal : Option Limiter.Refusal)
  /-- A response came, and the limiter crashed on it. -/
  | crashed (crash : Crash)

/-- Why a request is sent again after a reply, for the trace. -/
def Reply.why : Reply → String
  | .heard _ (some (.retry _)) => " due to rate limits"
  | .heard response _ => " due to recoverable failure: " ++ Status.print response.status
  | _ => ""

namespace Client

open Call (Progress)

variable {σ : Type} (client : Client σ)

/-! ## Before the first sending -/

/-- Take a call to the moment of its first sending. Gives the call, and the instant that the
limiter gave. -/
def approach (id : Nat) (request : Request) (s : Scene σ) :
    Answer Failure (Call × Option Instant) × Scene σ :=
  match s.perform (client.prepare id request s.clock) with
  | (.error stop, s) => (.error stop, s)
  | (.ok c, s) =>
    match s.perform (client.askNext c) with
    | (.error stop, s) => (.error stop, s)
    | (.ok next, s) =>
      match s.perform (atGate c s.clock next) with
      | (.error stop, s) => (.error stop, s)
      | (.ok wake, s) =>
        let s := s.later (wake.getD s.clock.now)
        match s.perform (client.announce c) with
        | (.error stop, s) => (.error stop, s)
        | (.ok (), s) => (.ok (c, next), s)

/-! ## One sending -/

/-- Show the limiter a response. Gives its refusal. -/
def hear (c : Call) (response : Response) (s : Scene σ) :
    Except Crash (Option Limiter.Refusal) × Scene σ :=
  match client.limiter with
  | none => (.ok none, s)
  | some limiter =>
    match limiter.update c.start s.clock response s.world with
    | (.ok (), world) => (.ok none, { s.note (.shows response.status) with world })
    | (.error (.error refusal), world) =>
      (.ok (some refusal), { s.note (.shows response.status) with world })
    | (.error (.crash crash), world) =>
      (.error crash, { s.note (.shows response.status) with world })

/-- The scene when something comes of sending the request of a call, and the end of the request on
its way. -/
def deliver (c : Call) (s : Scene σ) : Except Bool Response × Scene σ :=
  let (delivery, world) := client.transport s.clock.now c.request s.world
  (delivery.result,
    { s.note (.sends c.request) with world }.later (s.clock.now.wake delivery.after))

/-- What comes of the end of a request on its way. -/
def receive (c : Call) (s : Scene σ) : Except Bool Response → Reply × Scene σ
  | .error timeout => (.fault timeout, s)
  | .ok response =>
    match client.hear c response s with
    | (.ok refusal, s) => (.heard response refusal, s)
    | (.error crash, s) => (.crashed crash, s)

/-- Send the request of a call once. -/
def exchange (c : Call) (s : Scene σ) : Reply × Scene σ :=
  client.receive c (client.deliver c s).2 (client.deliver c s).1

/-- Replies that end a call : a fault, a crash, and a response for which the limiter asks no retry
and whose status means success or is not one to try again. -/
def Final : Reply → Prop
  | .fault _ => True
  | .crashed _ => True
  | .heard response refusal =>
    (∀ after, refusal ≠ some (.retry after)) ∧
      (Status.isSuccess response.status ∨ response.status ∉ client.retryStatuses)

/-- What a call comes to if a reply is its last. -/
def verdict (c : Call) : Reply → Answer Failure Response
  | .fault timeout => .fail (.transport timeout)
  | .crashed crash => .crashed crash
  | .heard _ (some (.retry after)) => .fail (c.refused (.retry after))
  | .heard response refusal =>
    if Status.isSuccess response.status then
      match refusal with
      | some refusal => .fail (c.refused refusal)
      | none => .ok response
    else
      .fail (.status (StatusFailure.unexpected c.id c.request.method c.request.url.print
        response.status response.entity?))

/-! ## Sending again -/

/-- How long a call is put off after a reply at an instant. -/
def delayAfter (attempt : Nat) (now : Instant) : Reply → Duration
  | .heard _ (some (.retry after)) => after.since now
  | _ => client.retryDelay attempt

/-- The scene in which the request is sent again. -/
def again (c : Call) (attempt : Nat) (reply : Reply) (s : Scene σ) : Scene σ :=
  let delay := client.delayAfter attempt s.clock.now reply
  (s.perform (putOff c s.clock attempt delay reply.why)).2.later (s.clock.now.wake delay)

/-- The scene in which the request is sent after so many sendings before, if it is sent again
whatever came of those. -/
def sending (c : Call) (s : Scene σ) : Nat → Scene σ
  | 0 => s
  | n + 1 =>
    let this := client.exchange c (sending c s n)
    client.again c n this.1 this.2

/-- What comes of a sending. -/
def reply (c : Call) (s : Scene σ) (n : Nat) : Reply :=
  (client.exchange c (client.sending c s n)).1

/-- The scene after a sending. -/
def replied (c : Call) (s : Scene σ) (n : Nat) : Scene σ :=
  (client.exchange c (client.sending c s n)).2

/-! ## After the last sending -/

/-- End a call with a verdict, once the observers have heard it. -/
def finish (c : Call) (now : Instant) : Answer Failure Response → Act σ Progress
  | .ok response => client.conclude c now response
  | .error (.error f) => do
    client.tellFailure c f
    Act.fail f
  | .error (.crash crash) => throw (.crash crash)

/-- A call that is under way, at the time of its first sending, comes to its end. -/
def complete (c : Call) (s : Scene σ) (last : Nat) :
    Option (Answer Failure Response) × Scene σ :=
  let s' := client.replied c s last
  let ended := s'.perform (client.finish c s'.clock.now (verdict c (client.reply c s last)))
  (result? ended.1, ended.2)

/-! ## A run is made of its sendings -/

/-- The scene in which a request has been sent, after so many sendings before. -/
def sendOff (c : Call) (attempt : Nat) (s : Scene σ) : Answer Failure Progress × Scene σ :=
  s.perform ((client.send c s.clock false attempt).beforeFailing (client.tellFailure c))

/-- Sending a request leaves it on its way until something comes of it. -/
theorem exists_sendOff (c : Call) (attempt : Nat) (s : Scene σ) :
    ∃ s', client.sendOff c attempt s =
        (.ok (.waits c (client.deliver c s).2.clock.now
          (.flight attempt (client.deliver c s).1)), s') ∧
      s'.later (client.deliver c s).2.clock.now = (client.deliver c s).2 := by
  have htell (f : Failure) := client.tellFailure_yields (P := fun _ => True) c (by simp) f
  unfold sendOff
  rw [s.perform_beforeFailing _ htell]
  exact ⟨_, rfl, rfl⟩

/-- The limiter's answer to a response is what the call hears of it. -/
theorem perform_learn (c : Call) (s : Scene σ) (response : Response) :
    s.perform (client.learn c s.clock response) =
      match client.hear c response s with
      | (.ok refusal, s) => (.ok refusal, s)
      | (.error crash, s) => (.error (.crash crash), s) := by
  unfold learn hear
  cases client.limiter with
  | none => simp
  | some limiter =>
    simp only [s.perform_bind _ fun _ => Act.yields_ask (P := fun _ => True) _ _,
      Scene.perform_record, Scene.perform_ask]
    rcases h : limiter.update c.start s.clock response s.world with
      ⟨(refusal | crash) | _, world⟩ <;>
      simp only [Scene.note, h] <;>
      rfl

/-- A response that is not final puts the call off while sendings are left. -/
theorem settle_of_not_final {c : Call} {response : Response} {refusal : Option Limiter.Refusal}
    {attempt : Nat} (h : ¬client.Final (.heard response refusal)) (ha : attempt < maxRetries)
    (clock : Clock) :
    client.settle c clock attempt response refusal =
      putOff c clock attempt (client.delayAfter attempt clock.now (.heard response refusal))
        (Reply.heard response refusal).why := by
  match refusal with
  | some (.retry after) => exact if_neg (by omega)
  | none | some (.invalidHeader _ _) | some (.other _) =>
    simp_all [Final, settle, delayAfter, Reply.why, retries]

/-- A response that is final, or the last, decides the call. -/
theorem settle_of_final {c : Call} {response : Response} {refusal : Option Limiter.Refusal}
    {attempt : Nat} (h : client.Final (.heard response refusal) ∨ attempt = maxRetries)
    (clock : Clock) :
    (client.settle c clock attempt response refusal : Act σ Progress) =
      match verdict c (.heard response refusal) with
      | .ok response => pure (.answered response)
      | .error stop => throw stop := by
  match refusal with
  | some (.retry after) =>
    have ha : attempt ≥ maxRetries := by
      rcases h with h | h
      · exact absurd rfl (h.1 after)
      · omega
    exact if_pos ha
  | none | some (.invalidHeader _ _) | some (.other _) =>
    have hr : client.retries response.status attempt = false := by
      rcases h with h | h
      · rcases h.2 with h | h <;> simp [retries, h]
      · simp [retries, h]
    cases hs : Status.isSuccess response.status <;>
      simp [settle, verdict, hr, hs, Answer.fail, Act.fail]

theorem perform_judge (c : Call) (s : Scene σ) (attempt : Nat) (response : Response) :
    s.perform (client.judge c s.clock attempt response) =
      match client.hear c response s with
      | (.ok refusal, s') => s'.perform (client.settle c s.clock attempt response refusal)
      | (.error crash, s') => (.error (.crash crash), s') := by
  have hsettle (refusal : Option Limiter.Refusal) :=
    client.settle_yields (P := fun _ => True) c (by simp) s.clock attempt response refusal
  unfold judge
  rw [s.perform_bind _ hsettle, perform_learn]
  rcases client.hear c response s with ⟨_ | _, _⟩ <;> rfl

/-- A reply that is not final puts the call off while sendings are left. -/
theorem perform_land_of_not_final {c : Call} {s : Scene σ} {attempt : Nat}
    {result : Except Bool Response} (h : ¬client.Final (client.receive c s result).1)
    (ha : attempt < maxRetries) :
    s.perform (client.land c s.clock attempt result) =
      (client.receive c s result).2.perform (putOff c s.clock attempt
        (client.delayAfter attempt s.clock.now (client.receive c s result).1)
        (client.receive c s result).1.why) := by
  match result with
  | .error timeout => exact absurd trivial h
  | .ok response =>
    unfold land
    rw [perform_judge]
    unfold receive at h ⊢
    rcases hear : client.hear c response s with ⟨crash | refusal, s'⟩ <;> simp only [hear] at h ⊢
    · exact absurd trivial h
    · rw [client.settle_of_not_final h ha]

/-- A reply that is final, or the last, decides the call. -/
theorem perform_land_of_final {c : Call} {s : Scene σ} {attempt : Nat}
    {result : Except Bool Response}
    (h : client.Final (client.receive c s result).1 ∨ attempt = maxRetries) :
    s.perform (client.land c s.clock attempt result) =
      match verdict c (client.receive c s result).1 with
      | .ok response => (.ok (.answered response), (client.receive c s result).2)
      | .error stop => (.error stop, (client.receive c s result).2) := by
  match result with
  | .error timeout => exact s.perform_fail _
  | .ok response =>
    unfold land
    rw [perform_judge]
    unfold receive at h ⊢
    rcases hear : client.hear c response s with ⟨crash | refusal, s'⟩ <;> simp only [hear] at h ⊢
    · rfl
    · rw [client.settle_of_final h]
      rcases verdict c (.heard response refusal) with _ | _ <;> simp

/-- A request that comes to its end is decided first. Then the observers hear of a failure, or the
call concludes. -/
theorem perform_resume_flight (c : Call) (s : Scene σ) (attempt : Nat)
    (result : Except Bool Response) :
    s.perform (client.resume c (.flight attempt result) s.clock false) =
      match s.perform (client.land c s.clock attempt result) with
      | (.ok (.answered response), s') => s'.perform (client.conclude c s.clock.now response)
      | (.error (.error f), s') =>
        s'.perform (client.tellFailure c f >>= fun _ => Act.fail f)
      | (answer, s') => (answer, s') := by
  have htell (f : Failure) := client.tellFailure_yields (P := fun _ => True) c (by simp) f
  unfold resume
  rw [s.perform_bind (P := fun _ => True) (Q := fun _ => True), s.perform_beforeFailing _ htell]
  · simp only [Bool.false_eq_true, if_false]
    rcases s.perform (client.land c s.clock attempt result) with ⟨(f | crash) | progress, s'⟩
    · have hfail : (Act.fail f : Act σ Progress).Yields (fun _ => True) fun _ => True :=
        Act.yields_fail f
      simp only [s'.perform_bind (client.tellFailure c f) fun _ => hfail]
      rcases s'.perform (client.tellFailure c f) with ⟨_ | _, _⟩ <;> simp [Answer.fail]
    · rfl
    · cases progress <;> simp
  · intro progress
    split
    · exact (client.conclude_yields (P := fun _ => True) c (by simp) (by simp) _ _).weaken
    · exact Act.yields_pure trivial

@[simp] theorem hear_clock (c : Call) (response : Response) (s : Scene σ) :
    (client.hear c response s).2.clock = s.clock := by
  unfold hear
  split
  · rfl
  · split <;> rfl

@[simp] theorem receive_clock (c : Call) (s : Scene σ) (result : Except Bool Response) :
    (client.receive c s result).2.clock = s.clock := by
  unfold receive
  split
  · rfl
  · rename_i response
    have h := client.hear_clock c response s
    split <;> simp_all

/-- The time of a scene stays as it is while a call is put off, and the call waits. -/
theorem perform_putOff (c : Call) (s : Scene σ) (clock : Clock) (attempt : Nat) (delay : Duration)
    (why : String) :
    ∃ s', s.perform (putOff c clock attempt delay why) =
      (.ok (.waits c (clock.now.wake delay) (.pause attempt)), s') := by
  unfold putOff Call.sayStep Act.onlyIf
  rw [s.perform_bind (P := fun _ => True) (Q := fun _ => True) _ fun _ => Act.yields_pure trivial]
  cases c.verbose with
  | false => exact ⟨s, by simp⟩
  | true =>
    simp only [if_true, Call.say, Scene.perform_record, Scene.perform_pure]
    exact ⟨_, rfl⟩

/-- A call that waits no more stays where it is. -/
theorem follow_of_result {cancel : Option Instant} {progress : Answer Failure Progress}
    (h : (result? progress).isSome) (n : Nat) (s : Scene σ) :
    client.follow cancel n progress s = (progress, s) := by
  unfold follow
  split
  · simp [result?] at h
  · rfl

/-- A call without cancellation sleeps to the end of its wait. -/
theorem follow_wait (n : Nat) (c : Call) (wake : Instant) (wait : Call.Wait) (s : Scene σ) :
    client.follow none (n + 1) (.ok (.waits c wake wait)) s =
      let landed := (s.later wake).perform (client.resume c wait (s.later wake).clock false)
      client.follow none n landed.1 landed.2 :=
  rfl

/-- A call that finishes has its result. -/
theorem isSome_result_finish (c : Call) (s : Scene σ) (now : Instant)
    (verdict : Answer Failure Response) :
    (result? (s.perform (client.finish c now verdict)).1).isSome := by
  have hy : (client.finish c now verdict).Yields (fun _ => True)
      fun p => ∃ response, p = .answered response := by
    match verdict with
    | .ok response =>
      refine (client.conclude_yields (P := fun _ => True) c ?_ ?_ _ _).mono ?_ ?_ <;> simp
    | .error (.error f) =>
      exact (client.tellFailure_yields (P := fun _ => True) c (by simp) f).bind fun _ _ =>
        Act.yields_fail f
    | .error (.crash crash) => exact Act.yields_throw _
  rcases h : s.perform (client.finish c now verdict) with ⟨_ | progress, s'⟩
  · rfl
  · obtain ⟨response, rfl⟩ := Scene.perform_value hy h
    rfl

/-- The end of a request with a final reply, or the last, ends the call. -/
theorem perform_resume_of_final {c : Call} {s : Scene σ} {attempt : Nat}
    {result : Except Bool Response}
    (h : client.Final (client.receive c s result).1 ∨ attempt = maxRetries) :
    s.perform (client.resume c (.flight attempt result) s.clock false) =
      (client.receive c s result).2.perform
        (client.finish c s.clock.now (verdict c (client.receive c s result).1)) := by
  rw [perform_resume_flight, client.perform_land_of_final h]
  match verdict c (client.receive c s result).1 with
  | .ok _ => rfl
  | .error (.error _) => rfl
  | .error (.crash _) => exact (Scene.perform_throw _ _).symm

/-- A sending whose reply is final, or the last, ends the call. -/
theorem follow_of_final {c : Call} {s : Scene σ} {attempt : Nat}
    (h : client.Final (client.exchange c s).1 ∨ attempt = maxRetries) (n : Nat) :
    let (reply, s') := client.exchange c s
    client.follow none (n + 1) (client.sendOff c attempt s).1 (client.sendOff c attempt s).2 =
      s'.perform (client.finish c s'.clock.now (verdict c reply)) := by
  obtain ⟨s', hsent, hlater⟩ := client.exists_sendOff c attempt s
  simp only [hsent, follow_wait, hlater, client.perform_resume_of_final h]
  rw [client.follow_of_result (client.isSome_result_finish ..)]
  simp [exchange]

/-- After a sending whose reply is not final, while sendings are left, the call sends again. -/
theorem follow_of_not_final {c : Call} {s : Scene σ} {attempt : Nat}
    (h : ¬client.Final (client.exchange c s).1) (ha : attempt < maxRetries) (n : Nat) :
    let resent := client.sendOff c (attempt + 1)
      (client.again c attempt (client.exchange c s).1 (client.exchange c s).2)
    client.follow none (n + 2) (client.sendOff c attempt s).1 (client.sendOff c attempt s).2 =
      client.follow none n resent.1 resent.2 := by
  obtain ⟨s', hsent, hlater⟩ := client.exists_sendOff c attempt s
  simp only [hsent, follow_wait, hlater, perform_resume_flight,
    client.perform_land_of_not_final h ha]
  unfold exchange again
  simp only [receive_clock]
  obtain ⟨result, s₁⟩ := client.deliver c s
  obtain ⟨reply, s₂⟩ := client.receive c s₁ result
  obtain ⟨s₃, hput⟩ := perform_putOff c s₂ s₁.clock attempt
    (client.delayAfter attempt s₁.clock.now reply) reply.why
  simp only [hput, follow_wait]
  rfl

/-- Which of the sendings is the last : the first with a final reply, unless none is left before. -/
structure Last (c : Call) (s : Scene σ) (last : Nat) : Prop where
  le : last ≤ maxRetries
  before : ∀ m < last, ¬client.Final (client.reply c s m)
  at_end : client.Final (client.reply c s last) ∨ last = maxRetries

/-- The sendings of a call from one on, while those before it got no final reply. -/
theorem exists_last_of_sending (c : Call) (s : Scene σ) :
    ∀ left attempt n : Nat, attempt + left = maxRetries → 2 * left + 1 ≤ n →
      (∀ m < attempt, ¬client.Final (client.reply c s m)) →
      let sent := client.sendOff c attempt (client.sending c s attempt)
      ∃ last, client.Last c s last ∧
        let ended := client.follow none n sent.1 sent.2
        (result? ended.1, ended.2) = client.complete c s last := by
  intro left
  induction left with
  | zero =>
    intro attempt n ha hn hbefore
    obtain ⟨n, rfl⟩ : ∃ k, n = k + 1 := ⟨n - 1, by omega⟩
    have ha : attempt = maxRetries := ha
    refine ⟨attempt, ⟨by omega, hbefore, .inr ha⟩, ?_⟩
    simp only [client.follow_of_final (.inr ha)]
    rfl
  | succ left ih =>
    intro attempt n ha hn hbefore
    by_cases hfinal : client.Final (client.reply c s attempt)
    · obtain ⟨n, rfl⟩ : ∃ k, n = k + 1 := ⟨n - 1, by omega⟩
      refine ⟨attempt, ⟨by omega, hbefore, .inl hfinal⟩, ?_⟩
      simp only [client.follow_of_final (.inl hfinal)]
      rfl
    · obtain ⟨n, rfl⟩ : ∃ k, n = k + 2 := ⟨n - 2, by omega⟩
      have hleft : attempt < maxRetries := by omega
      simp only [client.follow_of_not_final hfinal hleft]
      refine ih (attempt + 1) n (by omega) (by omega) fun m hm => ?_
      rcases Nat.lt_succ_iff_lt_or_eq.1 hm with hm | rfl
      · exact hbefore m hm
      · exact hfinal

/-- A call launched sends its request for the first time, once it is announced. -/
theorem perform_launch (c : Call) (s : Scene σ) :
    s.perform (client.launch c s.clock false) =
      match s.perform (client.announce c) with
      | (.ok (), s') => client.sendOff c 0 s'
      | (.error stop, s') => (.error stop, s') := by
  have htell (f : Failure) := client.tellFailure_yields (P := fun _ => True) c (by simp) f
  have hsend := (client.send_yields c trivial s.clock false 0).beforeFailing htell
  unfold launch
  rw [s.perform_bind _ fun _ => hsend]
  obtain ⟨_ | _, s', hannounce, hclock⟩ := s.exists_perform (client.announce c) <;>
    simp only [hannounce, sendOff, hclock]

/-- A call begins with what it does before its gate. There it waits, or it is launched at once. -/
theorem perform_begin (id : Nat) (request : Request) (s : Scene σ) :
    s.perform (client.begin id request s.clock false) =
      match s.perform (client.prepare id request s.clock) with
      | (.error stop, s) => (.error stop, s)
      | (.ok c, s) =>
        match s.perform (client.askNext c) with
        | (.error stop, s) => (.error stop, s)
        | (.ok next, s) =>
          match s.perform (atGate c s.clock next) with
          | (.error stop, s) => (.error stop, s)
          | (.ok wake, s) => s.perform (client.enter c s.clock false wake) := by
  have henter (c : Call) (wake : Option Instant) :=
    (client.enter_yields (P := fun _ => True) c (by simp) (by simp) trivial (by simp) s.clock false
      wake).weaken
  have hgate (c : Call) (next : Option Instant) :=
    (atGate_yields (P := fun _ => True) c (by simp) s.clock next).bind fun wake _ => henter c wake
  have hnext (c : Call) :=
    (client.askNext_yields (P := fun _ => True) c (by simp) trivial trivial).bind fun next _ =>
      hgate c next
  unfold begin
  rw [s.perform_bind _ hnext]
  obtain ⟨_ | c, s₁, hprepare, h₁⟩ := s.exists_perform (client.prepare id request s.clock) <;>
    simp only [hprepare]
  rw [s₁.perform_bind _ (hgate c)]
  obtain ⟨_ | next, s₂, hask, h₂⟩ := s₁.exists_perform (client.askNext c) <;> simp only [hask]
  rw [s₂.perform_bind _ (henter c), h₂, h₁]
  obtain ⟨_ | wake, s₃, hat, h₃⟩ := s₂.exists_perform (atGate c s.clock next) <;> simp only [hat]
  rw [h₃, h₂, h₁]

/-- A call enters the way to its first sending with seven waits left, after its gate. -/
theorem follow_enter (c : Call) (s : Scene σ) (wake : Option Instant) :
    ∃ n ≥ 2 * maxRetries + 1,
      let entered := s.perform (client.enter c s.clock false wake)
      let launched := (s.later (wake.getD s.clock.now)).perform
        (client.launch c (s.later (wake.getD s.clock.now)).clock false)
      client.follow none maxWaits entered.1 entered.2 =
        client.follow none n launched.1 launched.2 := by
  cases wake with
  | none => exact ⟨maxWaits, by decide, rfl⟩
  | some wake =>
    refine ⟨2 * maxRetries + 1, Nat.le_refl _, ?_⟩
    have hwait : s.perform (client.enter c s.clock false (some wake)) =
        (.ok (.waits c wake .gate), s) := s.perform_pure _
    simp only [hwait]
    exact client.follow_wait _ _ _ _ _

/-- A run without cancellation ends before its first sending, or makes its sendings up to the
last. -/
theorem run_eq (id : Nat) (request : Request) (s : Scene σ) :
    match client.approach id request s with
    | (.error stop, s') => client.run id request none s = (some (.error stop), s')
    | (.ok (c, _), s') =>
      ∃ last, client.Last c s' last ∧ client.run id request none s = client.complete c s' last := by
  unfold run approach
  simp only [perform_begin]
  obtain ⟨_ | c, s₁, hprepare, h₁⟩ := s.exists_perform (client.prepare id request s.clock) <;>
    simp only [hprepare]
  · rfl
  obtain ⟨_ | next, s₂, hask, h₂⟩ := s₁.exists_perform (client.askNext c) <;> simp only [hask]
  · rfl
  obtain ⟨_ | wake, s₃, hat, h₃⟩ := s₂.exists_perform (atGate c s₂.clock next) <;> simp only [hat]
  · rfl
  obtain ⟨n, hn, hfollow⟩ := client.follow_enter c s₃ wake
  simp only [hfollow, perform_launch]
  rcases (s₃.later (wake.getD s₃.clock.now)).perform (client.announce c) with ⟨stop | _, s₄⟩
  · have hstop : (result? (.error stop : Answer Failure Progress)).isSome := rfl
    simp only [client.follow_of_result hstop]
    rfl
  · exact client.exists_last_of_sending c s₄ _ 0 n rfl hn (by simp)

end Client

end Courier
