import Courier.Proofs.Call.Sends
import Courier.Proofs.Call.Waits
import Courier.Proofs.Clock

/-!
# Canceling a call

A call that is canceled stops where it is. `Client.waited` is the call after so many of its waits,
if nobody cancels it. Each wait ends when it began or later (`Progress.Ahead`), so what a call does
is in the order of time, and a call that is canceled at an instant goes like one that is not, up to
the wait that the instant falls into. There it ends at once. If its request has been announced,
each observer hears of the cancellation (`Client.CutShort`), and nothing else is done
(`Client.run_canceled`).

A call that is canceled before a piece of it is run sends nothing in that piece and does not go on
(`Client.begin_canceled`, `Client.resume_canceled`).
-/

namespace Courier

/-- A call does not wait for what is past. -/
def Call.Progress.Ahead (now : Instant) : Call.Progress → Prop
  | .waits _ wake _ => now ≤ wake
  | .answered _ => True

namespace Scene

variable {σ α : Type}

theorem perform_clock {s s' : Scene σ} {act : Act σ α} {answer : Answer Failure α}
    (h : s.perform act = (answer, s')) : s'.clock = s.clock := by
  cases h
  rfl

/-- A scene that another may lead to : it has the same log, and what came between. -/
def Leads (s s' : Scene σ) : Prop :=
  s.clock.now ≤ s'.clock.now ∧ ∃ between : Timeline, s'.log = s.log ++ between ∧
    ∀ te ∈ between, s.clock.now ≤ te.1 ∧ te.1 ≤ s'.clock.now

theorem Leads.refl (s : Scene σ) : s.Leads s :=
  ⟨Int.le_refl _, [], by simp⟩

theorem Leads.trans {s₁ s₂ s₃ : Scene σ} (h : s₁.Leads s₂) (h' : s₂.Leads s₃) : s₁.Leads s₃ := by
  obtain ⟨hnow, between, hlog, htimes⟩ := h
  obtain ⟨hnow', between', hlog', htimes'⟩ := h'
  refine ⟨Int.le_trans hnow hnow', between ++ between', by simp [hlog', hlog], fun te hte => ?_⟩
  rcases List.mem_append.1 hte with hte | hte
  · exact ⟨(htimes te hte).1, Int.le_trans (htimes te hte).2 hnow'⟩
  · exact ⟨Int.le_trans hnow (htimes' te hte).1, (htimes' te hte).2⟩

theorem leads_later {s : Scene σ} {t : Instant} (h : s.clock.now ≤ t) : s.Leads (s.later t) :=
  ⟨h, [], by simp⟩

theorem leads_perform {P : Event → Prop} {Q : α → Prop} {act : Act σ α} (h : act.Yields P Q)
    (s : Scene σ) : s.Leads (s.perform act).2 := by
  obtain ⟨added, hlog, -⟩ := s.exists_log_perform h
  refine ⟨Int.le_refl _, added.map (s.clock.now, ·), hlog, fun te hte => ?_⟩
  obtain ⟨e, -, rfl⟩ := List.mem_map.1 hte
  exact ⟨Int.le_refl _, Int.le_refl _⟩

end Scene

namespace Client

open Call (Progress Wait)

variable {σ : Type} (client : Client σ) (c : Call)

/-! ## Waits end later than they begin -/

theorem send_ahead (clock : Clock) (canceled : Bool) (attempt : Nat) :
    (client.send c clock canceled attempt).Yields (fun _ => True) (Progress.Ahead clock.now) := by
  unfold send
  refine Act.yields_ite (fun _ => Act.yields_fail _) fun _ => ?_
  exact (Act.yields_record trivial).bind fun _ _ =>
    (Act.yields_ask _ _).bind fun _ _ => Act.yields_pure (Instant.le_wake _ _)

theorem launch_ahead (clock : Clock) (canceled : Bool) :
    (client.launch c clock canceled).Yields (fun _ => True) (Progress.Ahead clock.now) :=
  (client.announce_yields c (by simp) (by simp)).bind fun _ _ =>
    (client.send_ahead c clock canceled 0).beforeFailing (client.tellFailure_yields c (by simp))

theorem begin_ahead (id : Nat) (request : Request) (clock : Clock) (canceled : Bool) :
    (client.begin id request clock canceled).Yields (fun _ => True)
      (Progress.Ahead clock.now) := by
  refine (client.prepare_yields trivial id request clock).bind fun c _ => ?_
  refine (client.askNext_yields c (by simp) trivial trivial).bind fun next _ => ?_
  refine (atGate_yields c (by simp) clock next).bind fun wake hwake => ?_
  match wake with
  | none => exact client.launch_ahead c clock canceled
  | some wake =>
    refine Act.yields_ite (fun _ => Act.yields_fail _) fun _ => Act.yields_pure ?_
    simp only at hwake
    split at hwake <;> cases hwake
    exact Instant.le_wake _ _

theorem settle_ahead (clock : Clock) (attempt : Nat) (response : Response)
    (refusal : Option Limiter.Refusal) :
    (client.settle c clock attempt response refusal).Yields (fun _ => True)
      (Progress.Ahead clock.now) := by
  have hput (delay : Duration) (why : String) :
      (putOff c clock attempt delay why : Act σ Progress).Yields (fun _ => True)
        (Progress.Ahead clock.now) :=
    (c.sayStep_yields (by simp) _).bind fun _ _ => Act.yields_pure (Instant.le_wake _ _)
  unfold settle
  split
  · exact Act.yields_ite (fun _ => Act.yields_fail _) fun _ => hput _ _
  · refine Act.yields_ite (fun _ => hput _ _) fun _ => ?_
    refine Act.yields_ite (fun _ => Act.yields_fail _) fun _ => ?_
    split
    · exact Act.yields_fail _
    · exact Act.yields_pure trivial

theorem land_ahead (clock : Clock) (attempt : Nat) (result : Except Bool Response) :
    (client.land c clock attempt result).Yields (fun _ => True) (Progress.Ahead clock.now) :=
  match result with
  | .error _ => Act.yields_fail _
  | .ok _ => (client.learn_yields c (by simp) _ _).bind fun _ _ => client.settle_ahead c _ _ _ _

theorem resume_ahead (wait : Wait) (clock : Clock) (canceled : Bool) :
    (client.resume c wait clock canceled).Yields (fun _ => True) (Progress.Ahead clock.now) := by
  have htell (f : Failure) := client.tellFailure_yields (P := fun _ => True) c (by simp) f
  match wait with
  | .gate =>
    exact Act.yields_ite (fun _ => Act.yields_fail _) fun _ => client.launch_ahead c clock canceled
  | .pause attempt => exact (client.send_ahead c clock canceled (attempt + 1)).beforeFailing htell
  | .flight attempt result =>
    have hlanded := Act.yields_ite (c := canceled = true) (fun _ => Act.yields_fail .canceled)
      fun _ => client.land_ahead c clock attempt result
    refine (hlanded.beforeFailing htell).bind fun progress hp => ?_
    split
    · refine (client.conclude_yields c (by simp) (by simp) _ _).mono (fun _ => id) fun _ hp => ?_
      obtain ⟨_, rfl⟩ := hp
      trivial
    · exact Act.yields_pure hp

/-! ## Pieces of a canceled call -/

theorem launch_canceled (clock : Clock) :
    (client.launch c clock true).Yields (·.sent? = none) fun _ => False :=
  (client.announce_yields c (by simp [Event.sent?]) (by simp [Event.sent?])).bind fun _ _ =>
    (Act.yields_fail _).beforeFailing (client.tellFailure_yields c (by simp [Event.sent?]))

/-- A call that is canceled from the start sends nothing and does not go on. -/
theorem begin_canceled (id : Nat) (request : Request) (clock : Clock) :
    (client.begin id request clock true).Yields (·.sent? = none) fun _ => False := by
  refine (client.prepare_yields (P := (·.sent? = none)) rfl id request clock).bind fun c _ => ?_
  refine (client.askNext_yields (P := (·.sent? = none)) c ?_ rfl rfl).bind fun next _ => ?_
  · simp [Event.sent?]
  refine (atGate_yields c (by simp [Event.sent?]) clock next).bind fun wake _ => ?_
  cases wake with
  | none => exact client.launch_canceled c clock
  | some _ => exact Act.yields_fail _

/-- A call that is canceled while it waits sends nothing more and does not go on. -/
theorem resume_canceled (wait : Wait) (clock : Clock) :
    (client.resume c wait clock true).Yields (·.sent? = none) fun _ => False := by
  have htell (f : Failure) :=
    client.tellFailure_yields (P := (·.sent? = none)) c (by simp [Event.sent?]) f
  cases wait with
  | gate => exact Act.yields_fail _
  | pause attempt => exact (Act.yields_fail _).beforeFailing htell
  | flight attempt result =>
    exact ((Act.yields_fail _).beforeFailing htell).bind (Q := fun _ => False) fun _ hp => hp.elim

/-! ## Waits of a call that is not canceled -/

theorem follow_add (cancel : Option Instant) (m n : Nat) (progress : Answer Failure Progress)
    (s : Scene σ) :
    client.follow cancel (m + n) progress s =
      let followed := client.follow cancel m progress s
      client.follow cancel n followed.1 followed.2 := by
  induction m generalizing progress s with
  | zero =>
    rw [Nat.zero_add]
    rfl
  | succ m ih =>
    by_cases hended : (result? progress).isSome
    · simp only [client.follow_of_result hended]
    match progress with
    | .ok (.waits c wake wait) =>
      rw [Nat.succ_add_eq_add_succ, Nat.add_succ]
      exact ih _ _
    | .ok (.answered _) | .error _ => exact absurd rfl hended

/-- A call after so many of its waits, if it is not canceled. -/
def waited (id : Nat) (request : Request) (s : Scene σ) (n : Nat) :
    Answer Failure Progress × Scene σ :=
  let begun := s.perform (client.begin id request s.clock false)
  client.follow none n begun.1 begun.2

/-- A call that is not canceled is through with all of its waits in the end. -/
theorem run_eq_waited (id : Nat) (request : Request) (s : Scene σ) :
    client.run id request none s =
      let ended := client.waited id request s maxWaits
      (result? ended.1, ended.2) := by
  simp only [run, waited]

variable {client} {c} {id : Nat} {request : Request} {s s' : Scene σ} {n : Nat} {wake : Instant}
  {wait : Wait}

/-- A wait ends, and the call goes on. -/
theorem waited_succ (h : client.waited id request s n = (.ok (.waits c wake wait), s')) :
    client.waited id request s (n + 1) =
      (s'.later wake).perform (client.resume c wait (s'.later wake).clock false) := by
  unfold waited at h ⊢
  rw [follow_add, h]
  rfl

/-- A call that has ended waits no more. -/
theorem waited_of_result (h : (result? (client.waited id request s n).1).isSome) {m : Nat}
    (hm : n ≤ m) : client.waited id request s m = client.waited id request s n := by
  obtain ⟨k, rfl⟩ := Nat.exists_eq_add_of_le hm
  unfold waited at h ⊢
  rw [follow_add, client.follow_of_result h]

/-- A call that has ended after so many waits has run. -/
theorem run_of_waited {answer : Answer Failure Response}
    (h : result? (client.waited id request s n).1 = some answer) :
    client.run id request none s = (some answer, (client.waited id request s n).2) := by
  have hended := client.isSome_run id request none s
  rw [run_eq_waited] at hended ⊢
  have hsame : client.waited id request s maxWaits = client.waited id request s n := by
    rw [← waited_of_result hended (Nat.le_max_left _ n),
      ← waited_of_result (by rw [h]; rfl) (Nat.le_max_right maxWaits n)]
  simp only [hsame, h]

variable (client) in
/-- A call has ended, or it waits. -/
theorem ended_or_waits (id : Nat) (request : Request) (s : Scene σ) (n : Nat) :
    (result? (client.waited id request s n).1).isSome ∨
      ∃ c wake wait s', client.waited id request s n = (.ok (.waits c wake wait), s') := by
  rcases client.waited id request s n with ⟨stop | ⟨c, wake, wait⟩ | response, s'⟩
  · exact .inl rfl
  · exact .inr ⟨c, wake, wait, s', rfl⟩
  · exact .inl rfl

theorem waited_ahead {progress : Progress} (h : client.waited id request s n = (.ok progress, s')) :
    progress.Ahead s'.clock.now := by
  induction n generalizing progress s' with
  | zero =>
    have hbegin : s.perform (client.begin id request s.clock false) = (.ok progress, s') := h
    have hvalue := Scene.perform_value (client.begin_ahead id request s.clock false) hbegin
    rwa [← Scene.perform_clock hbegin] at hvalue
  | succ n ih =>
    rcases client.ended_or_waits id request s n with hended | ⟨c, wake, wait, s₁, hn⟩
    · rw [waited_of_result hended n.le_succ] at h
      exact ih h
    · rw [waited_succ hn] at h
      have hvalue := Scene.perform_value (client.resume_ahead c wait _ false) h
      rwa [← Scene.perform_clock h] at hvalue

variable (client)

theorem leads_waited_succ (id : Nat) (request : Request) (s : Scene σ) (n : Nat) :
    (client.waited id request s n).2.Leads (client.waited id request s (n + 1)).2 := by
  rcases client.ended_or_waits id request s n with hended | ⟨c, wake, wait, s₁, hn⟩
  · rw [waited_of_result hended n.le_succ]
    exact Scene.Leads.refl _
  · rw [waited_succ hn, hn]
    exact (Scene.leads_later (waited_ahead hn)).trans
      (Scene.leads_perform (client.resume_ahead c wait _ false) _)

theorem leads_waited (id : Nat) (request : Request) (s : Scene σ) (n k : Nat) :
    (client.waited id request s n).2.Leads (client.waited id request s (n + k)).2 := by
  induction k with
  | zero => exact Scene.Leads.refl _
  | succ k ih => exact ih.trans (client.leads_waited_succ id request s (n + k))

theorem leads_begun (id : Nat) (request : Request) (s : Scene σ) (n : Nat) :
    s.Leads (client.waited id request s n).2 := by
  have hbegun : s.Leads (client.waited id request s 0).2 :=
    Scene.leads_perform (client.begin_ahead id request s.clock false) s
  have hwaited := client.leads_waited id request s 0 n
  rw [Nat.zero_add] at hwaited
  exact hbegun.trans hwaited

variable {client}

theorem lt_maxWaits (h : client.waited id request s n = (.ok (.waits c wake wait), s')) :
    n < maxWaits := by
  refine Nat.lt_of_not_le fun hn => ?_
  have hended := client.isSome_run id request none s
  rw [run_eq_waited] at hended
  rw [← waited_of_result hended hn, h] at hended
  cases hended

/-! ## The moment of cancellation -/

variable {cancel : Instant}

/-- A cancellation changes nothing before its time. -/
theorem follow_early (h : (client.waited id request s n).2.clock.now < cancel) :
    let begun := s.perform (client.begin id request s.clock false)
    client.follow (some cancel) n begun.1 begun.2 = client.waited id request s n := by
  induction n with
  | zero => rfl
  | succ n ih =>
    have hnow := Int.lt_of_le_of_lt (client.leads_waited_succ id request s n).1 h
    simp only [follow_add _ _ n 1, ih hnow]
    rcases client.ended_or_waits id request s n with hended | ⟨c, wake, wait, s₁, hn⟩
    · rw [client.follow_of_result hended, waited_of_result hended n.le_succ]
    · rw [waited_succ hn] at h ⊢
      have hwake : ¬cancel ≤ wake := Int.not_le.2 h
      simp [hn, follow, wakeUp, hwake]

/-- A call that ends before it is canceled goes as if it were not. -/
theorem run_late (h : (client.run id request none s).2.clock.now < cancel) :
    client.run id request (some cancel) s = client.run id request none s := by
  simp only [run_eq_waited] at h ⊢
  have hbegun := (client.leads_begun id request s maxWaits).1
  have hstart : ¬cancel ≤ s.clock.now := Int.not_le.2 (Int.lt_of_le_of_lt hbegun h)
  have hfollow := follow_early (n := maxWaits) h
  simp only [run, hstart, decide_false, hfollow]

/-- A call that is canceled during a wait ends with what it does about that. -/
theorem run_during (h : client.waited id request s n = (.ok (.waits c wake wait), s'))
    (hnow : s'.clock.now < cancel) (hwake : cancel ≤ wake) :
    client.run id request (some cancel) s =
      let ended := (s'.later cancel).perform (client.resume c wait (s'.later cancel).clock true)
      (result? ended.1, ended.2) := by
  have hbegun := (client.leads_begun id request s n).1
  rw [h] at hbegun
  have hstart : ¬cancel ≤ s.clock.now := Int.not_le.2 (Int.lt_of_le_of_lt hbegun hnow)
  have hearly : (client.waited id request s n).2.clock.now < cancel := by rwa [h]
  obtain ⟨k, hk⟩ : ∃ k, maxWaits = n + (k + 1) :=
    ⟨maxWaits - n - 1, by have := lt_maxWaits h; omega⟩
  have hmax : max s'.clock.now cancel = cancel := by lia
  simp only [run, hstart, decide_false, hk, follow_add _ _ n, follow_early hearly, h]
  simp only [follow, wakeUp, hwake, if_true, hmax]
  rcases hended : (s'.later cancel).perform (client.resume c wait (s'.later cancel).clock true)
    with ⟨stop | progress, s₁⟩
  · rw [client.follow_of_result rfl]
  · exact (Scene.perform_value (client.resume_canceled c wait _) hended).elim

/-! ## What observers hear -/

variable (client) (c)

/-- What all observers hear of a failure. -/
def heard (f : Failure) : List Event :=
  client.observers.zipIdx.map fun (_, i) => .failed i c.request f

/-- Tell an observer of a failure. -/
def tell (f : Failure) (o : Observer σ × Nat) : Act σ Unit := do
  Act.record (.failed o.2 c.request f)
  Act.ask Empty.elim (o.1.failed c.request f)

theorem tell_yields (f : Failure) (o : Observer σ × Nat) :
    (tell c f o).Yields (fun _ => True) fun _ => True :=
  (Act.yields_record trivial).bind fun _ _ => Act.yields_ask _ _

theorem perform_tell (f : Failure) (o : Observer σ × Nat) (s : Scene σ) :
    s.perform (tell c f o) =
      ((o.1.failed c.request f s.world).1.mapError (Act.stopped Empty.elim),
        { s.note (.failed o.2 c.request f) with world := (o.1.failed c.request f s.world).2 }) := by
  unfold tell
  rw [s.perform_bind _ fun _ => Act.yields_ask (P := fun _ => True) _ _, s.perform_record]
  exact Scene.perform_ask _ _ _

/-- Observers hear of a failure in their order, up to the first that crashes. -/
theorem perform_forM_tell (f : Failure) (l : List (Observer σ × Nat)) (s : Scene σ) :
    ∃ told, (s.perform (l.forM (tell c f))).2.log = s.log ++ told.map (s.clock.now, ·) ∧
      ((s.perform (l.forM (tell c f))).1 = .ok () ∧
          told = l.map (fun o => .failed o.2 c.request f) ∨
        ∃ o ∈ l, ∃ crash, (∃ world, (o.1.failed c.request f world).1 = .error (.crash crash)) ∧
          (s.perform (l.forM (tell c f))).1 = .error (.crash crash) ∧
          told <+: l.map (fun o => .failed o.2 c.request f)) := by
  induction l generalizing s with
  | nil => exact ⟨[], by simp, .inl ⟨by simp, rfl⟩⟩
  | cons o l ih =>
    have hrest := Act.yields_forM l fun o _ => tell_yields c f o
    have hcons : (o :: l).forM (tell c f) = tell c f o >>= fun _ => l.forM (tell c f) := rfl
    rw [hcons, s.perform_bind _ fun _ => hrest, perform_tell]
    rcases hanswer : o.1.failed c.request f s.world with ⟨(e | crash) | _, world⟩
    · exact e.elim
    · refine ⟨[.failed o.2 c.request f], rfl, .inr ⟨o, by simp, crash, ?_, rfl, ?_⟩⟩
      · exact ⟨s.world, by rw [hanswer]⟩
      · exact ⟨_, rfl⟩
    · obtain ⟨told, hlog, hended⟩ := ih { s.note (.failed o.2 c.request f) with world }
      refine ⟨.failed o.2 c.request f :: told, hlog.trans (by simp [Scene.note]), ?_⟩
      rcases hended with ⟨hok, rfl⟩ | ⟨o', ho', crash, hworld, hcrash, htold⟩
      · exact .inl ⟨hok, rfl⟩
      · refine .inr ⟨o', List.mem_cons_of_mem _ ho', crash, hworld, hcrash, ?_⟩
        exact List.cons_prefix_cons.2 ⟨rfl, htold⟩

/-- How a call ends that is canceled during a wait, with the events that this adds. -/
inductive CutShort (c : Call) : Wait → List Event → Answer Failure Response → Prop where
  /-- Its request was not announced yet. -/
  | atGate : CutShort c .gate [] (.fail .canceled)
  /-- All observers hear of it. -/
  | underWay {wait : Wait} (hwait : wait ≠ .gate) :
      CutShort c wait (client.heard c .canceled) (.fail .canceled)
  /-- An observer crashes when it hears of it. -/
  | crashed {wait : Wait} {o : Observer σ} {told : List Event} {crash : Crash}
      (hwait : wait ≠ .gate) (ho : o ∈ client.observers)
      (hcrash : ∃ world, (o.failed c.request .canceled world).1 = .error (.crash crash))
      (htold : told <+: client.heard c .canceled) : CutShort c wait told (.crashed crash)

/-- A call that is canceled after its gate tells the observers before it ends. -/
theorem perform_resume_canceled {wait : Wait} (hwait : wait ≠ .gate) (s : Scene σ) :
    s.perform (client.resume c wait s.clock true) =
      match s.perform (client.tellFailure c .canceled) with
      | (.ok (), s') => (.fail .canceled, s')
      | (.error stop, s') => (.error stop, s') := by
  have htell (f : Failure) := client.tellFailure_yields (P := fun _ => True) c (by simp) f
  have hfail : (Act.fail .canceled : Act σ Progress).Yields (fun _ => True) fun _ => True :=
    Act.yields_fail _
  have hbefore : s.perform ((Act.fail .canceled : Act σ Progress).beforeFailing
      (client.tellFailure c)) =
        match s.perform (client.tellFailure c .canceled) with
        | (.ok (), s') => (.fail .canceled, s')
        | (.error stop, s') => (.error stop, s') := by
    rw [s.perform_beforeFailing _ htell, s.perform_fail]
    simp only [Answer.fail]
    rw [s.perform_bind _ fun _ => hfail]
    rcases s.perform (client.tellFailure c .canceled) with ⟨_ | _, s'⟩
    · rfl
    · exact s'.perform_fail _
  cases wait with
  | gate => exact absurd rfl hwait
  | pause attempt => exact hbefore
  | flight attempt result =>
    unfold resume
    rw [s.perform_bind (P := fun _ => True) (Q := fun _ => True)]
    · simp only [if_true, hbefore]
      rcases s.perform (client.tellFailure c .canceled) with ⟨_ | _, _⟩ <;> rfl
    · intro progress
      split
      · exact (client.conclude_yields (P := fun _ => True) c (by simp) (by simp) _ _).weaken
      · exact Act.yields_pure trivial

/-- A canceled call ends at the time at which it is canceled. -/
theorem exists_cutShort (wait : Wait) (s : Scene σ) :
    ∃ told result, let cut := s.perform (client.resume c wait s.clock true)
      result? cut.1 = some result ∧ client.CutShort c wait told result ∧
        cut.2.clock = s.clock ∧ cut.2.log = s.log ++ told.map (s.clock.now, ·) := by
  by_cases hwait : wait = .gate
  · subst hwait
    exact ⟨[], .fail .canceled, rfl, .atGate, rfl, by simp [resume]⟩
  rw [client.perform_resume_canceled c hwait]
  obtain ⟨told, hlog, hended⟩ := perform_forM_tell c .canceled client.observers.zipIdx s
  change (s.perform (client.tellFailure c .canceled)).2.log = _ at hlog
  rcases htold : s.perform (client.tellFailure c .canceled) with ⟨answer, s'⟩
  rw [htold] at hlog
  have hclock := Scene.perform_clock htold
  rcases hended with ⟨hok, rfl⟩ | ⟨o, ho, crash, hworld, hcrash, hprefix⟩
  · obtain rfl : answer = .ok () := (congrArg Prod.fst htold).symm.trans hok
    exact ⟨_, .fail .canceled, rfl, .underWay hwait, hclock, hlog⟩
  · obtain rfl : answer = .error (.crash crash) := (congrArg Prod.fst htold).symm.trans hcrash
    refine ⟨told, .crashed crash, rfl, .crashed hwait ?_ hworld hprefix, hclock, hlog⟩
    exact List.fst_mem_of_mem_zipIdx ho

/-! ## Canceled runs -/

/-- Time passes in waits only. -/
theorem exists_wait_of_le (id : Nat) (request : Request) (s : Scene σ) {cancel : Instant}
    (hstart : s.clock.now < cancel) (n : Nat)
    (h : cancel ≤ (client.waited id request s n).2.clock.now) :
    ∃ m c wake wait s', client.waited id request s m = (.ok (.waits c wake wait), s') ∧
      s'.clock.now < cancel ∧ cancel ≤ wake := by
  induction n with
  | zero => exact absurd hstart (Int.not_lt.2 h)
  | succ n ih =>
    by_cases hn : cancel ≤ (client.waited id request s n).2.clock.now
    · exact ih hn
    rcases client.ended_or_waits id request s n with hended | ⟨c, wake, wait, s', hwaited⟩
    · rw [waited_of_result hended n.le_succ] at h
      exact absurd h hn
    · rw [waited_succ hwaited] at h
      rw [hwaited] at hn
      exact ⟨n, c, wake, wait, s', hwaited, Int.not_le.1 hn, h⟩

/-- A call that is canceled before it would end waits at that time. -/
theorem exists_wait_of_run (id : Nat) (request : Request) (s : Scene σ) {cancel : Instant}
    (hstart : s.clock.now < cancel) (hend : cancel ≤ (client.run id request none s).2.clock.now) :
    ∃ n c wake wait s', client.waited id request s n = (.ok (.waits c wake wait), s') ∧
      s'.clock.now < cancel ∧ cancel ≤ wake := by
  rw [run_eq_waited] at hend
  exact client.exists_wait_of_le id request s hstart maxWaits hend

/-- A call that is canceled from the start ends in an error, with nothing sent. -/
theorem run_early (id : Nat) (request : Request) (s : Scene σ) {cancel : Instant}
    (h : cancel ≤ s.clock.now) :
    (client.run id request (some cancel) s).2.log.sends = s.log.sends ∧
      ∃ stop, (client.run id request (some cancel) s).1 = some (.error stop) := by
  have hsends := s.sends_perform (client.begin_canceled id request s.clock)
  rcases hbegun : s.perform (client.begin id request s.clock true) with ⟨stop | progress, s'⟩
  · rw [hbegun] at hsends
    have hended : (result? (.error stop : Answer Failure Progress)).isSome := rfl
    simp only [run, h, decide_true, hbegun, client.follow_of_result hended]
    exact ⟨hsends, stop, rfl⟩
  · exact (Scene.perform_value (client.begin_canceled id request s.clock) hbegun).elim

/-- Canceling a call cuts it off at the instant and does nothing else. If the call has ended before,
it goes as if it were not canceled. If it waits at the instant, it has done what it would have done
before, it ends at the instant, and all that it adds is that the observers hear of it, unless it
waits at its gate. -/
theorem run_canceled (id : Nat) (request : Request) (s : Scene σ) (cancel : Instant) :
    let ran := client.run id request none s
    let cut := client.run id request (some cancel) s
    (∃ result, ran.1 = some result) ∧
    (ran.2.clock.now < cancel → cut = ran) ∧
    (∀ n c wake wait s', client.waited id request s n = (.ok (.waits c wake wait), s') →
      s'.clock.now < cancel → cancel < wake →
      ∃ (before after : Timeline) (told : List Event) (result : Answer Failure Response),
        ran.2.log = s.log ++ before ++ after ∧
        (∀ te ∈ before, te.1 < cancel) ∧ (∀ te ∈ after, cancel < te.1) ∧
        cut.1 = some result ∧ cut.2.clock.now = cancel ∧
        cut.2.log = s.log ++ before ++ told.map (cancel, ·) ∧
        client.CutShort c wait told result) ∧
    (s.clock.now < cancel → cancel ≤ ran.2.clock.now →
      ∃ n c wake wait s', client.waited id request s n = (.ok (.waits c wake wait), s') ∧
        s'.clock.now < cancel ∧ cancel ≤ wake) ∧
    (cancel ≤ s.clock.now →
      cut.2.log.sends = s.log.sends ∧ ∃ stop, cut.1 = some (.error stop)) := by
  intro ran cut
  refine ⟨Option.isSome_iff_exists.1 (client.isSome_run id request none s), run_late, ?_,
    fun hstart hend => client.exists_wait_of_run id request s hstart hend,
    client.run_early id request s⟩
  intro n c wake wait s' hwaited hnow hwake
  have hleads : s.Leads s' := by
    have hbegun := client.leads_begun id request s n
    rwa [hwaited] at hbegun
  obtain ⟨-, before, hlog, hbefore⟩ := hleads
  -- What the call would have done after the wait comes at its end or later.
  have hafter : (s'.later wake).Leads ran.2 := by
    rw [show ran = _ from client.run_eq_waited id request s]
    obtain ⟨k, hk⟩ := Nat.exists_eq_add_of_lt (lt_maxWaits hwaited)
    have hrest := client.leads_waited id request s (n + 1) k
    rw [waited_succ hwaited, Nat.add_right_comm, ← hk] at hrest
    exact (Scene.leads_perform (client.resume_ahead c wait _ false) _).trans hrest
  obtain ⟨-, after, hran, hafter⟩ := hafter
  obtain ⟨told, result, hresult, hshort, hclock, hcut⟩ :=
    client.exists_cutShort c wait (s'.later cancel)
  have hduring := run_during hwaited hnow (Int.le_of_lt hwake)
  refine ⟨before, after, told, result, ?_, fun te hte => ?_, fun te hte => ?_, ?_, ?_, ?_, hshort⟩
  · rw [hran, Scene.later_log, hlog]
  · exact Int.lt_of_le_of_lt (hbefore te hte).2 hnow
  · exact Int.lt_of_lt_of_le hwake (hafter te hte).1
  · exact (congrArg Prod.fst hduring).trans hresult
  · rw [show cut = _ from hduring]
    exact congrArg Clock.now hclock
  · rw [show cut = _ from hduring]
    simpa [hlog] using hcut

end Client

end Courier
