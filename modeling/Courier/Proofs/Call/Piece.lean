import Courier.Call.Run

/-!
# What a piece of a call adds

A piece of a call only adds to the journal. `Act.Yields` says so : what the piece answers and
what it does to the world are the same whatever the journal holds, each event that it adds has a
property, and so has its value. Pieces made from such pieces are such pieces, so the statements
for the stages of a call (`Client.prepare_yields`, `Client.announce_yields` and so on) follow the
way they are written. They leave the property of the events open and ask for it where an event
is added.

Pieces that only add can be taken apart : a scene after two of them is the scene after the
second, begun in the scene after the first (`Scene.perform_bind`).
-/

namespace Courier

namespace Act

variable {σ α β ε : Type}

/-! ## Running a piece -/

@[simp] theorem run_pure (a : α) (j : Journal σ) : (pure a : Act σ α).run j = (.ok a, j) :=
  rfl

@[simp] theorem run_throw (stop : Stop Failure) (j : Journal σ) :
    (throw stop : Act σ α).run j = (.error stop, j) :=
  rfl

@[simp] theorem run_get (j : Journal σ) : (get : Act σ (Journal σ)).run j = (.ok j, j) :=
  rfl

@[simp] theorem run_set (j j' : Journal σ) : (set j' : Act σ PUnit).run j = (.ok ⟨⟩, j') :=
  rfl

@[simp] theorem run_record (e : Event) (j : Journal σ) :
    (record e).run j = (.ok (), { j with events := j.events ++ [e] }) :=
  rfl

theorem run_bind (act : Act σ α) (f : α → Act σ β) (j : Journal σ) :
    (act >>= f).run j =
      match act.run j with
      | (.ok a, j) => (f a).run j
      | (.error stop, j) => (.error stop, j) := by
  change (ExceptT.bindCont f (act.run j).1) (act.run j).2 = _
  rcases act.run j with ⟨_ | _, _⟩ <;> rfl

theorem run_tryCatch (act : Act σ α) (f : Stop Failure → Act σ α) (j : Journal σ) :
    (tryCatch act f).run j =
      match act.run j with
      | (.ok a, j) => (.ok a, j)
      | (.error stop, j) => (f stop).run j := by
  have h : (tryCatch act f).run j = (ExceptT.tryCatch act f).run j := rfl
  rw [h]
  unfold ExceptT.tryCatch
  rw [ExceptT.run_mk]
  rcases h : act.run j with ⟨_ | _, _⟩ <;>
  · simp only [ExceptT.run] at h
    simp only [bind, StateT.bind, h]
    rfl

/-- An error or a crash of a collaborator as one of a call. -/
def stopped (ofError : ε → Failure) : Stop ε → Stop Failure
  | .error e => .error (ofError e)
  | .crash c => .crash c

theorem run_ask (ofError : ε → Failure) (f : σ → Answer ε α × σ) (j : Journal σ) :
    (ask ofError f).run j =
      ((f j.world).1.mapError (stopped ofError), { j with world := (f j.world).2 }) := by
  unfold ask
  rw [run_bind, run_get]
  rcases h : f j.world with ⟨(e | c) | a, w⟩ <;> simp only [h, run_bind, run_set] <;> rfl

theorem run_beforeFailing (act : Act σ α) (last : Failure → Act σ Unit) (j : Journal σ) :
    (act.beforeFailing last).run j =
      match act.run j with
      | (.error (.error f), j) => (last f >>= fun _ => fail f).run j
      | (answer, j) => (answer, j) := by
  unfold beforeFailing
  rw [run_tryCatch]
  rcases act.run j with ⟨(f | c) | a, _⟩ <;> rfl

/-! ## Pieces that only add to the journal -/

/-- A piece that only adds to the journal, whatever it holds. The events that it adds have `P`,
and its value has `Q`. -/
def Yields (act : Act σ α) (P : Event → Prop) (Q : α → Prop) : Prop :=
  ∀ w, ∃ answer w' added, (∀ es, act.run ⟨w, es⟩ = (answer, ⟨w', es ++ added⟩)) ∧
    (∀ e ∈ added, P e) ∧ ∀ a, answer = .ok a → Q a

variable {P P' : Event → Prop} {Q Q' : α → Prop} {R : β → Prop}

theorem Yields.mono {act : Act σ α} (h : act.Yields P Q) (hP : ∀ e, P e → P' e)
    (hQ : ∀ a, Q a → Q' a) : act.Yields P' Q' := by
  intro w
  obtain ⟨answer, w', added, hrun, hadded, hvalue⟩ := h w
  exact ⟨answer, w', added, hrun, fun e he => hP e (hadded e he), fun a ha => hQ a (hvalue a ha)⟩

theorem Yields.weaken {act : Act σ α} (h : act.Yields P Q) :
    act.Yields (fun _ => True) fun _ => True :=
  h.mono (fun _ _ => trivial) fun _ _ => trivial

theorem yields_pure {a : α} (h : Q a) : (pure a : Act σ α).Yields P Q := by
  intro w
  refine ⟨.ok a, w, [], fun es => ?_, by simp, by simpa using h⟩
  rw [run_pure, List.append_nil]

theorem yields_throw (stop : Stop Failure) : (throw stop : Act σ α).Yields P Q := by
  intro w
  refine ⟨.error stop, w, [], fun es => ?_, by simp, by simp⟩
  rw [run_throw, List.append_nil]

theorem yields_fail (f : Failure) : (fail f : Act σ α).Yields P Q :=
  yields_throw _

theorem yields_record {e : Event} (h : P e) : (record e : Act σ Unit).Yields P fun _ => True :=
  fun w => ⟨.ok (), w, [e], fun _ => rfl, by simpa using h, by simp⟩

theorem yields_ask (ofError : ε → Failure) (f : σ → Answer ε α × σ) :
    (ask ofError f).Yields P fun _ => True := by
  intro w
  refine ⟨(f w).1.mapError (stopped ofError), (f w).2, [], fun es => ?_, by simp, by simp⟩
  rw [run_ask, List.append_nil]

theorem yields_ofExcept (e : Except Failure α) : (ofExcept e : Act σ α).Yields P fun _ => True :=
  match e with
  | .ok _ => yields_pure trivial
  | .error f => yields_fail f

/-- A piece that only adds to the journal, from one world on. -/
def YieldsAt (w : σ) (act : Act σ α) (P : Event → Prop) (Q : α → Prop) : Prop :=
  ∃ answer w' added, (∀ es, act.run ⟨w, es⟩ = (answer, ⟨w', es ++ added⟩)) ∧
    (∀ e ∈ added, P e) ∧ ∀ a, answer = .ok a → Q a

theorem YieldsAt.bind {w : σ} {act : Act σ α} {f : α → Act σ β} (h : act.YieldsAt w P Q)
    (hf : ∀ a, Q a → (f a).Yields P R) : (act >>= f).YieldsAt w P R := by
  obtain ⟨answer, w', added, hrun, hadded, hvalue⟩ := h
  cases answer with
  | error stop => exact ⟨.error stop, w', added, fun es => by rw [run_bind, hrun], hadded, by simp⟩
  | ok a =>
    obtain ⟨answer, w'', more, hrun', hmore, hvalue'⟩ := hf a (hvalue a rfl) w'
    refine ⟨answer, w'', added ++ more, fun es => ?_, ?_, hvalue'⟩
    · rw [run_bind, hrun]
      simpa using hrun' (es ++ added)
    · intro e he
      rcases List.mem_append.1 he with he | he
      · exact hadded e he
      · exact hmore e he

theorem Yields.bind {act : Act σ α} {f : α → Act σ β} (h : act.Yields P Q)
    (hf : ∀ a, Q a → (f a).Yields P R) : (act >>= f).Yields P R :=
  fun w => YieldsAt.bind (h w) hf

/-- What a piece adds does not change the world that the next one begins in. -/
theorem yieldsAt_record_bind {w : σ} {e : Event} {act : Act σ β} (he : P e)
    (h : act.YieldsAt w P R) : (record e >>= fun _ => act).YieldsAt w P R := by
  obtain ⟨answer, w', added, hrun, hadded, hvalue⟩ := h
  refine ⟨answer, w', e :: added, fun es => ?_, by simpa using ⟨he, hadded⟩, hvalue⟩
  rw [run_bind, run_record]
  simpa using hrun (es ++ [e])

/-- A collaborator that is asked gives its own answer. -/
theorem yieldsAt_ask {w : σ} (ofError : ε → Failure) (f : σ → Answer ε α × σ) :
    (ask ofError f).YieldsAt w P fun a => (f w).1 = .ok a := by
  refine ⟨(f w).1.mapError (stopped ofError), (f w).2, [], fun es => ?_, by simp, fun a ha => ?_⟩
  · rw [run_ask, List.append_nil]
  · cases hf : (f w).1 with
    | error stop =>
      rw [hf] at ha
      cases ha
    | ok a' =>
      rw [hf] at ha
      cases ha
      rfl

theorem Yields.beforeFailing {act : Act σ α} {last : Failure → Act σ Unit} (h : act.Yields P Q)
    (hlast : ∀ f, (last f).Yields P fun _ => True) : (act.beforeFailing last).Yields P Q := by
  intro w
  obtain ⟨answer, w', added, hrun, hadded, hvalue⟩ := h w
  match answer with
  | .ok a => exact ⟨.ok a, w', added, fun es => by rw [run_beforeFailing, hrun], hadded, hvalue⟩
  | .error (.crash c) =>
    exact ⟨_, w', added, fun es => by rw [run_beforeFailing, hrun], hadded, hvalue⟩
  | .error (.error f) =>
    obtain ⟨answer, w'', more, hrun', hmore, hvalue'⟩ :=
      (hlast f).bind (R := Q) (fun _ _ => yields_fail f) w'
    refine ⟨answer, w'', added ++ more, fun es => ?_, ?_, hvalue'⟩
    · rw [run_beforeFailing, hrun]
      simpa using hrun' (es ++ added)
    · intro e he
      rcases List.mem_append.1 he with he | he
      · exact hadded e he
      · exact hmore e he

theorem yields_forM {f : β → Act σ Unit} :
    ∀ (l : List β), (∀ b ∈ l, (f b).Yields P fun _ => True) → (l.forM f).Yields P fun _ => True
  | [], _ => yields_pure trivial
  | b :: l, h => by
    rw [List.forM_eq_forM, List.forM_cons]
    exact (h b (by simp)).bind fun _ _ => yields_forM l fun b' hb => h b' (by simp [hb])

theorem yields_ite {c : Prop} [Decidable c] {act act' : Act σ α} (h : c → act.Yields P Q)
    (h' : ¬c → act'.Yields P Q) : (if c then act else act').Yields P Q := by
  by_cases hc : c
  · simpa only [if_pos hc] using h hc
  · simpa only [if_neg hc] using h' hc

theorem yields_onlyIf {condition : Bool} {act : Act σ Unit} (h : act.Yields P fun _ => True) :
    (onlyIf condition act).Yields P fun _ => True :=
  yields_ite (fun _ => h) fun _ => yields_pure trivial

end Act

/-! ## Scenes -/

namespace Scene

variable {σ α β ε : Type}

/-- The scene with an event at its time. -/
def note (s : Scene σ) (e : Event) : Scene σ :=
  { s with log := s.log ++ [(s.clock.now, e)] }

theorem exists_perform (s : Scene σ) (act : Act σ α) :
    ∃ answer s', s.perform act = (answer, s') ∧ s'.clock = s.clock :=
  ⟨_, _, rfl, rfl⟩

@[simp] theorem later_clock_now (s : Scene σ) (t : Instant) : (s.later t).clock.now = t :=
  rfl

@[simp] theorem later_log (s : Scene σ) (t : Instant) : (s.later t).log = s.log :=
  rfl

@[simp] theorem perform_pure (s : Scene σ) (a : α) : s.perform (pure a) = (.ok a, s) := by
  simp [perform, Act.perform]

@[simp] theorem perform_throw (s : Scene σ) (stop : Stop Failure) :
    s.perform (throw stop : Act σ α) = (.error stop, s) := by
  simp [perform, Act.perform]

@[simp] theorem perform_fail (s : Scene σ) (f : Failure) :
    s.perform (Act.fail f : Act σ α) = (.fail f, s) :=
  s.perform_throw _

theorem perform_record (s : Scene σ) (e : Event) :
    s.perform (Act.record e) = (.ok (), s.note e) := by
  simp [perform, Act.perform, note]

theorem perform_ask (s : Scene σ) (ofError : ε → Failure) (f : σ → Answer ε α × σ) :
    s.perform (Act.ask ofError f) =
      ((f s.world).1.mapError (Act.stopped ofError), { s with world := (f s.world).2 }) := by
  simp [perform, Act.perform, Act.run_ask]

/-- The scene after two pieces is the scene after the second, begun after the first. -/
theorem perform_bind {P : Event → Prop} {Q : β → Prop} (s : Scene σ) (act : Act σ α)
    {f : α → Act σ β} (hf : ∀ a, (f a).Yields P Q) :
    s.perform (act >>= f) =
      match s.perform act with
      | (.ok a, s) => s.perform (f a)
      | (.error stop, s) => (.error stop, s) := by
  simp only [perform, Act.perform, Act.run_bind]
  rcases act.run ⟨s.world, []⟩ with ⟨stop | a, w, es⟩
  · rfl
  · obtain ⟨answer, w', added, hrun, -⟩ := hf a w
    simp [hrun es, by simpa using hrun []]

/-- The scene after a piece that may fail, with something else to do before. -/
theorem perform_beforeFailing {P : Event → Prop} (s : Scene σ) (act : Act σ α)
    {last : Failure → Act σ Unit} (hlast : ∀ f, (last f).Yields P fun _ => True) :
    s.perform (act.beforeFailing last) =
      match s.perform act with
      | (.error (.error f), s) => s.perform (last f >>= fun _ => Act.fail f)
      | (answer, s) => (answer, s) := by
  simp only [perform, Act.perform, Act.run_beforeFailing]
  rcases act.run ⟨s.world, []⟩ with ⟨(f | c) | a, w, es⟩
  · obtain ⟨answer, w', added, hrun, -⟩ :=
      (hlast f).bind (R := fun _ : α => True) (fun _ _ => Act.yields_fail f) w
    simp [hrun es, by simpa using hrun []]
  · rfl
  · rfl

/-- What a piece adds to any journal, it adds to the log at the time of the scene. -/
theorem perform_of_run {s : Scene σ} {act : Act σ α} {answer : Answer Failure α} {w : σ}
    {added : List Event} (hrun : ∀ es, act.run ⟨s.world, es⟩ = (answer, ⟨w, es ++ added⟩)) :
    s.perform act =
      (answer, { s with world := w, log := s.log ++ added.map (s.clock.now, ·) }) := by
  simp [perform, Act.perform, by simpa using hrun []]

theorem exists_log_perform {act : Act σ α} {P : Event → Prop} {Q : α → Prop} (h : act.Yields P Q)
    (s : Scene σ) : ∃ added : List Event,
      (s.perform act).2.log = s.log ++ added.map (s.clock.now, ·) ∧ ∀ e ∈ added, P e := by
  obtain ⟨answer, w', added, hrun, hadded, -⟩ := h s.world
  exact ⟨added, by rw [perform_of_run hrun], hadded⟩

theorem perform_value {act : Act σ α} {P : Event → Prop} {Q : α → Prop} (h : act.Yields P Q)
    {s s' : Scene σ} {a : α} (hs : s.perform act = (.ok a, s')) : Q a := by
  obtain ⟨answer, w', added, hrun, -, hvalue⟩ := h s.world
  have hr := hrun []
  simp only [List.nil_append] at hr
  simp only [perform, Act.perform, hr, Prod.mk.injEq] at hs
  exact hvalue a hs.1

end Scene

/-! ## The pieces of a call -/

namespace Call

/-- A call has its answer, or it is put off while sendings are left. -/
def Decided (c : Call) (attempt : Nat) (progress : Progress) : Prop :=
  (∃ wake, progress = .waits c wake (.pause attempt) ∧ attempt < maxRetries) ∨
    ∃ response, progress = .answered response

variable {σ : Type} {P : Event → Prop} (c : Call)

theorem say_yields (ht : ∀ t, P (.traces t)) (text : String) (elapsed : Option Duration) :
    (c.say text elapsed : Act σ Unit).Yields P fun _ => True :=
  Act.yields_record (ht _)

theorem sayStep_yields (ht : ∀ t, P (.traces t)) (text : String) :
    (c.sayStep text : Act σ Unit).Yields P fun _ => True :=
  Act.yields_onlyIf (c.say_yields ht _ _)

theorem sayBody_yields (ht : ∀ t, P (.traces t)) (what mark : String) (body : Bytes) :
    (c.sayBody what mark body : Act σ Unit).Yields P fun _ => True :=
  Act.yields_onlyIf (c.say_yields ht _ _)

theorem sayRequest_yields (ht : ∀ t, P (.traces t)) (digest : Bytes → Bytes) :
    (c.sayRequest digest : Act σ Unit).Yields P fun _ => True :=
  (c.say_yields ht _ _).bind fun _ _ => Act.yields_onlyIf (c.sayBody_yields ht _ _ _)

theorem sayResponse_yields (ht : ∀ t, P (.traces t)) (digest : Bytes → Bytes)
    (response : Response) :
    (c.sayResponse digest response : Act σ Response).Yields P fun _ => True := by
  refine (c.say_yields ht _ _).bind fun _ _ => Act.yields_ite (fun _ => ?_) fun _ => ?_
  · cases response.body with
    | none => exact Act.yields_fail _
    | some body => exact (c.sayBody_yields ht _ _ _).bind fun _ _ => Act.yields_pure trivial
  · exact Act.yields_pure trivial

theorem sayReport_yields (ht : ∀ t, P (.traces t)) (hr : P .asksReport) (limiter : Limiter σ) :
    (c.sayReport limiter).Yields P fun _ => True :=
  (Act.yields_record hr).bind fun _ _ => (Act.yields_ask _ _).bind fun _ _ => c.sayStep_yields ht _

end Call

namespace Client

variable {σ : Type} (client : Client σ) {P : Event → Prop} (c : Call)

theorem askObservers_yields {event : Nat → Event} (he : ∀ i, P (event i))
    (ask : Observer σ → σ → Answer Failure Unit × σ) :
    (client.askObservers event ask).Yields P fun _ => True :=
  Act.yields_forM _ fun _ _ => (Act.yields_record (he _)).bind fun _ _ => Act.yields_ask _ _

theorem tellFailure_yields (hf : ∀ i f, P (.failed i c.request f)) (f : Failure) :
    (client.tellFailure c f).Yields P fun _ => True :=
  Act.yields_forM _ fun _ _ => (Act.yields_record (hf _ _)).bind fun _ _ => Act.yields_ask _ _

theorem prepare_yields (ha : P .authorizes) (id : Nat) (request : Request) (clock : Clock) :
    (client.prepare id request clock).Yields P fun _ => True := by
  unfold prepare
  refine (Act.yields_ofExcept _).bind fun resolved _ => ?_
  cases client.authorizer with
  | none =>
    exact (Act.yields_pure (Q := fun _ => True) trivial).bind fun _ _ => Act.yields_pure trivial
  | some authorizer =>
    exact ((Act.yields_record ha).bind fun _ _ => Act.yields_ask _ _).bind fun _ _ =>
      Act.yields_pure trivial

theorem askNext_yields (ht : ∀ t, P (.traces t)) (hr : P .asksReport) (hn : P (.asksNext c.start)) :
    (client.askNext c).Yields P fun _ => True := by
  unfold askNext
  cases client.limiter with
  | none => exact Act.yields_pure trivial
  | some limiter =>
    refine (Act.yields_onlyIf (c.sayReport_yields ht hr limiter)).bind fun _ _ => ?_
    exact (Act.yields_record hn).bind fun _ _ =>
      (Act.yields_ask _ _).bind fun _ _ => Act.yields_pure trivial

/-- The gate is open at once, or at the time that the limiter gave. -/
theorem atGate_yields (ht : ∀ t, P (.traces t)) (clock : Clock) (next : Option Instant) :
    (atGate c clock next : Act σ (Option Instant)).Yields P fun wake =>
      let delay := (next.map (·.since clock.now)).getD 0
      wake = if delay = 0 then none else some (clock.now.wake delay) := by
  unfold atGate
  refine Act.yields_ite (fun h => Act.yields_pure (by simp [h])) fun h => ?_
  exact (c.sayStep_yields ht _).bind fun _ _ => Act.yields_pure (by simp [h])

theorem announce_yields (ht : ∀ t, P (.traces t)) (hw : ∀ i, P (.willSend i c.request)) :
    (client.announce c).Yields P fun _ => True :=
  (client.askObservers_yields hw _).bind fun _ _ =>
    (Act.yields_onlyIf (c.say_yields ht _ _)).bind fun _ _ =>
      Act.yields_onlyIf (c.sayRequest_yields ht _)

/-- What is sent is on its way. -/
theorem send_yields (hs : P (.sends c.request)) (clock : Clock) (canceled : Bool) (attempt : Nat) :
    (client.send c clock canceled attempt).Yields P fun progress =>
      ∃ wake result, progress = .waits c wake (.flight attempt result) := by
  unfold send
  refine Act.yields_ite (fun _ => Act.yields_fail _) fun _ => ?_
  exact (Act.yields_record hs).bind fun _ _ =>
    (Act.yields_ask _ _).bind fun _ _ => Act.yields_pure ⟨_, _, rfl⟩

theorem launch_yields (ht : ∀ t, P (.traces t)) (hw : ∀ i, P (.willSend i c.request))
    (hs : P (.sends c.request)) (hf : ∀ i f, P (.failed i c.request f)) (clock : Clock)
    (canceled : Bool) : (client.launch c clock canceled).Yields P fun progress =>
      ∃ wake result, progress = .waits c wake (.flight 0 result) :=
  (client.announce_yields c ht hw).bind fun _ _ =>
    (client.send_yields c hs _ _ _).beforeFailing (client.tellFailure_yields c hf)

/-- A call enters its gate, or is on its way. -/
theorem enter_yields (ht : ∀ t, P (.traces t)) (hw : ∀ i, P (.willSend i c.request))
    (hs : P (.sends c.request)) (hf : ∀ i f, P (.failed i c.request f)) (clock : Clock)
    (canceled : Bool) (wake : Option Instant) :
    (client.enter c clock canceled wake).Yields P fun progress =>
      (∃ wake result, progress = .waits c wake (.flight 0 result)) ∨
        ∃ wake, progress = .waits c wake .gate :=
  match wake with
  | none => (client.launch_yields c ht hw hs hf _ _).mono (fun _ => id) fun _ => .inl
  | some _ =>
    Act.yields_ite (fun _ => Act.yields_fail _) fun _ => Act.yields_pure (.inr ⟨_, rfl⟩)

theorem learn_yields (hs : ∀ status, P (.shows status)) (clock : Clock) (response : Response) :
    (client.learn c clock response).Yields P fun _ => True := by
  unfold learn
  cases client.limiter with
  | none => exact Act.yields_pure trivial
  | some limiter => exact (Act.yields_record (hs _)).bind fun _ _ => Act.yields_ask _ _

theorem putOff_yields (ht : ∀ t, P (.traces t)) (clock : Clock) (attempt : Nat) (delay : Duration)
    (why : String) :
    (putOff c clock attempt delay why : Act σ Call.Progress).Yields P fun progress =>
      ∃ wake, progress = .waits c wake (.pause attempt) :=
  (c.sayStep_yields ht _).bind fun _ _ => Act.yields_pure ⟨_, rfl⟩

theorem settle_yields (ht : ∀ t, P (.traces t)) (clock : Clock) (attempt : Nat)
    (response : Response) (refusal : Option Limiter.Refusal) :
    (client.settle c clock attempt response refusal).Yields P (c.Decided attempt) := by
  have hput (hleft : attempt < maxRetries) (delay : Duration) (why : String) :
      (putOff c clock attempt delay why : Act σ Call.Progress).Yields P (c.Decided attempt) := by
    refine (putOff_yields c ht clock attempt delay why).mono (fun _ => id) fun progress hp => ?_
    obtain ⟨wake, rfl⟩ := hp
    exact .inl ⟨wake, rfl, hleft⟩
  unfold settle
  split
  · exact Act.yields_ite (fun _ => Act.yields_fail _) fun hleft => hput (by omega) _ _
  · refine Act.yields_ite (fun hretries => hput ?_ _ _) fun _ => ?_
    · simp only [retries, decide_eq_true_eq] at hretries
      exact hretries.1
    refine Act.yields_ite (fun _ => Act.yields_fail _) fun _ => ?_
    split
    · exact Act.yields_fail _
    · exact Act.yields_pure (.inr ⟨_, rfl⟩)

theorem judge_yields (ht : ∀ t, P (.traces t)) (hs : ∀ status, P (.shows status)) (clock : Clock)
    (attempt : Nat) (response : Response) :
    (client.judge c clock attempt response).Yields P (c.Decided attempt) :=
  (client.learn_yields c hs _ _).bind fun _ _ => client.settle_yields c ht _ _ _ _

theorem land_yields (ht : ∀ t, P (.traces t)) (hs : ∀ status, P (.shows status)) (clock : Clock)
    (attempt : Nat) (result : Except Bool Response) :
    (client.land c clock attempt result).Yields P (c.Decided attempt) :=
  match result with
  | .error _ => Act.yields_fail _
  | .ok _ => client.judge_yields c ht hs _ _ _

theorem conclude_yields (ht : ∀ t, P (.traces t))
    (hd : ∀ i status, P (.didReceive i c.request status)) (now : Instant) (response : Response) :
    (client.conclude c now response).Yields P fun p => ∃ response, p = .answered response :=
  (Act.yields_onlyIf (c.say_yields ht _ _)).bind fun _ _ =>
    (Act.yields_ite (fun _ => c.sayResponse_yields ht _ response) fun _ =>
      Act.yields_pure trivial).bind fun _ _ =>
        (client.askObservers_yields (fun i => hd i _) _).bind fun _ _ => Act.yields_pure ⟨_, rfl⟩

end Client

end Courier
