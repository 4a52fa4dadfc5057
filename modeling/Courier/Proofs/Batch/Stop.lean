import Courier.Proofs.Batch.Backpressure
import Courier.Proofs.Batch.Ledger
import Courier.Proofs.Call.Cancel

/-!
# Stopping a batch

A batch is to stop when the caller cancels it, when its reader cancels the outlet or leaves, when
its producer fails, or when a job reports a failure (`Session.Deed.Stops`). Whatever everybody does
at that time, production asks for one more request at most and one more job is accepted at most.
From the moment at which the caller cancels the batch, no request is sent any more, and its reader
is not told that there are no more results unless everything was done by then, or the producer
has crashed (`Session.prompt_stop`).

A producer that crashes ends production without a look at what else has happened. So it can happen
that the reader is told of the end although the batch was canceled before its jobs were done
(`Session.not_prompt_stop`).
-/

namespace Courier.Batch.Session

variable {σ : Type} {p : Plan σ} {s s' s₀ s₁ : State σ} {e : Deed} {h before after : List Deed}
  {j : Job}

/-- What is to stop a batch. -/
def Deed.Stops : Deed → Prop
  | .cancels => True
  | .dismisses _ => True
  | .leaves => True
  | .reports _ _ => True
  | .asks _ (.error (.error _)) => True
  | _ => False

/-- Production is to end. -/
def Halts (s : State σ) : Prop :=
  s.canceled ∨ s.outlet.refuses

/-! ## What stays as it is -/

theorem refuses_of_canceled {o : Outlet Outcome} (h : o.canceled) : o.refuses := by
  simp [Outlet.refuses, h]

/-- What is canceled stays so, and a reader who has left does not come back. -/
structure Stays (s s' : State σ) : Prop where
  canceled : s.canceled → s'.canceled
  shut : s.outlet.canceled → s'.outlet.canceled
  refuses : s.outlet.refuses → s'.outlet.refuses

theorem Stays.of_outlet (hcanceled : s'.canceled = s.canceled) (houtlet : s'.outlet = s.outlet) :
    Stays s s' := by
  constructor <;> simp [hcanceled, houtlet]

theorem Stays.of_shut (hcanceled : s'.canceled = s.canceled) (hshut : s'.outlet.canceled) :
    Stays s s' :=
  ⟨fun h => hcanceled ▸ h, fun _ => hshut, fun _ => refuses_of_canceled hshut⟩

theorem Stays.step (heffect : JobEffect s j e s') : Stays s s' := by
  cases heffect with
  | works _ _ _ houtlet hcanceled => exact .of_outlet hcanceled houtlet
  | delivers => exact ⟨id, id, id⟩
  | reports => exact .of_shut rfl (by simp [State.setWork])
  | leaves => exact ⟨id, id, id⟩

theorem Stays.produce (hstep : Batch.produce p s = some s') : Stays s s' := by
  obtain ⟨_, hshown⟩ := exists_productionStep hstep
  cases hshown with
  | fails => exact .of_shut rfl (by simp)
  | drainsCanceled => exact .of_shut rfl (by simp [State.endProduction, Outlet.dropWriter])
  | _ => exact ⟨id, id, id⟩

theorem Stays.read {answer : Except Failure (Option Outcome)} {outlet : Outlet Outcome}
    (hnext : s.outlet.next = some (answer, outlet)) : Stays s { s with outlet } := by
  cases Outlet.Reading.of_next hnext <;> exact ⟨id, id, id⟩

theorem Stays.move (hmove : Move p s e s') : Stays s s' := by
  cases hmove with
  | produces hstep => exact .produce hstep
  | advances _ hstep => exact .step (.of_step hstep)
  | reads _ hnext => exact .read hnext
  | dismisses => exact .of_shut rfl (by simp)
  | leaves => exact .of_shut rfl (by simp [Outlet.close])
  | cancels => exact ⟨fun _ => rfl, id, id⟩
  | passes => exact ⟨id, id, id⟩

theorem Stays.halts (hs : Stays s s') (h : Halts s) : Halts s' :=
  h.imp hs.canceled hs.refuses

/-- Whatever is to stop a batch makes production end. -/
theorem halts_of_stops (hmove : Move p s e s') (hstops : e.Stops) : Halts s' := by
  cases hmove with
  | produces hstep =>
    obtain ⟨_, hshown⟩ := exists_productionStep hstep
    unfold doneByProduction at hstops
    cases hshown with
    | fails => exact .inr (refuses_of_canceled (by simp))
    | asks _ hproduction hanswer | exhausts _ hproduction hanswer
      | crashes _ hproduction hanswer =>
      simp only [hproduction, hanswer] at hstops
      exact hstops.elim
    | checks hproduction | gives hproduction | stops hproduction | offers hproduction
      | claims hproduction | queues hproduction | quits hproduction | wakes hproduction
      | adds hproduction | drains hproduction | drainsCanceled hproduction =>
      rw [hproduction] at hstops
      exact hstops.elim
  | advances _ hstep =>
    have heffect := JobEffect.of_step hstep
    generalize doneByJob s _ = e at heffect hstops
    cases heffect with
    | reports => exact .inr (refuses_of_canceled (by simp [State.setWork]))
    | works | delivers | leaves => exact hstops.elim
  | reads | passes => exact hstops.elim
  | dismisses => exact .inr (refuses_of_canceled (by simp))
  | leaves => exact .inr (refuses_of_canceled (by simp [Outlet.close]))
  | cancels => exact .inl rfl

/-- A batch that was to be stopped, or was canceled from the start, is to end production. -/
theorem halts_of_course {scene : Scene σ} {canceled : Bool}
    (hlaunch : p.launch scene canceled = .ok s₀) (hcourse : Course p s₀ h s)
    (hstops : canceled ∨ ∃ e ∈ h, e.Stops) : Halts s := by
  induction hcourse with
  | nil =>
    rcases hstops with hcanceled | ⟨e, he, -⟩
    · exact .inl (eq_start_of_launch hlaunch ▸ hcanceled)
    · cases he
  | snoc _ hmove ih =>
    rcases hstops with hcanceled | ⟨e, he, hstops⟩
    · exact (Stays.move hmove).halts (ih (.inl hcanceled))
    · rcases List.mem_append.1 he with he | he
      · exact (Stays.move hmove).halts (ih (.inr ⟨e, he, hstops⟩))
      · cases List.mem_singleton.1 he
        exact halts_of_stops hmove hstops

theorem canceled_of_cancels (hmove : Move p s e s') (he : e = .cancels) : s'.canceled := by
  cases hmove with
  | produces =>
    unfold doneByProduction at he
    split at he <;> cases he
  | advances _ hstep =>
    have heffect := JobEffect.of_step hstep
    rw [he] at heffect
    cases heffect
  | cancels => rfl
  | reads | dismisses | leaves | passes => cases he

/-- A batch that was canceled stays so. -/
theorem canceled_of_course {scene : Scene σ} {canceled : Bool}
    (hlaunch : p.launch scene canceled = .ok s₀) (hcourse : Course p s₀ h s)
    (hcancels : canceled ∨ .cancels ∈ h) : s.canceled := by
  induction hcourse with
  | nil => exact eq_start_of_launch hlaunch ▸ hcancels.resolve_right (by simp)
  | snoc _ hmove ih =>
    rcases hcancels with hcanceled | hcancels
    · exact (Stays.move hmove).canceled (ih (.inl hcanceled))
    · rcases List.mem_append.1 hcancels with hcancels | hcancels
      · exact (Stays.move hmove).canceled (ih (.inr hcancels))
      · exact canceled_of_cancels hmove (List.mem_singleton.1 hcancels).symm

/-! ## How much is left to do -/

/-- How often the producer is asked before production looks whether it is to go on. -/
def asksLeft : Production → Nat
  | .asks _ => 1
  | _ => 0

/-- How many jobs are accepted before production looks whether it is to go on. -/
def acceptsLeft : Production → Nat
  | .asks _ | .offers _ _ | .claims _ _ | .queues _ _ | .adds _ _ => 1
  | _ => 0

/-- Production that is to end uses up what is left to do. -/
theorem left_of_move (hmove : Move p s e s') (hhalts : Halts s) :
    (asked [e]).length + asksLeft s'.production ≤ asksLeft s.production ∧
      (accepted [e]).length + acceptsLeft s'.production ≤ acceptsLeft s.production := by
  cases hmove with
  | produces hstep =>
    obtain ⟨_, hshown⟩ := exists_productionStep hstep
    unfold doneByProduction
    cases hshown with
    | checks hproduction hgoes haccepts => simp [Halts, hgoes, haccepts] at hhalts
    | asks _ hproduction | exhausts _ hproduction | fails _ hproduction | crashes _ hproduction
      | gives hproduction | stops hproduction | offers hproduction | claims hproduction
      | queues hproduction | quits hproduction | wakes hproduction | adds hproduction
      | drains hproduction | drainsCanceled hproduction =>
      rw [hproduction]
      simp [asked, accepted, asksLeft, acceptsLeft, State.endProduction]
  | advances _ hstep =>
    have heffect := JobEffect.of_step hstep
    generalize doneByJob s _ = e at heffect
    cases heffect with
    | works _ _ hproduction =>
      simp only [State.setWork, hproduction]
      exact ⟨Nat.le_of_eq (Nat.zero_add _), Nat.le_of_eq (Nat.zero_add _)⟩
    | delivers | reports | leaves =>
      exact ⟨Nat.le_of_eq (Nat.zero_add _), Nat.le_of_eq (Nat.zero_add _)⟩
  | reads | dismisses | leaves | cancels | passes =>
    exact ⟨Nat.le_of_eq (Nat.zero_add _), Nat.le_of_eq (Nat.zero_add _)⟩

/-- Production that is to end asks for one more request at most, and one more job is accepted at
most. -/
theorem left_of_course (hcourse : Course p s h s') (hhalts : Halts s) :
    (asked h).length ≤ 1 ∧ (accepted h).length ≤ 1 := by
  have hleft : Halts s' ∧ (asked h).length + asksLeft s'.production ≤ asksLeft s.production ∧
      (accepted h).length + acceptsLeft s'.production ≤ acceptsLeft s.production := by
    refine hcourse.invariant (I := fun h s' => Halts s' ∧
      (asked h).length + asksLeft s'.production ≤ asksLeft s.production ∧
      (accepted h).length + acceptsLeft s'.production ≤ acceptsLeft s.production) ?_ ?_
    · exact ⟨hhalts, Nat.le_of_eq (Nat.zero_add _), Nat.le_of_eq (Nat.zero_add _)⟩
    · rintro h e s₁ s₂ ⟨hhalts, hasks, haccepts⟩ hmove
      obtain ⟨hasks', haccepts'⟩ := left_of_move hmove hhalts
      refine ⟨(Stays.move hmove).halts hhalts, ?_, ?_⟩
      · rw [asked_append, List.length_append]
        omega
      · rw [accepted_append, List.length_append]
        omega
  have hasksLeft : asksLeft s.production ≤ 1 := by
    unfold asksLeft
    split <;> decide
  have hacceptsLeft : acceptsLeft s.production ≤ 1 := by
    unfold acceptsLeft
    split <;> decide
  omega

/-! ## What is sent -/

/-- A collaborator that is asked sends nothing. -/
theorem sends_record_ask {α : Type} (scene : Scene σ) {event : Event} (hevent : event.sent? = none)
    (f : σ → Answer Failure α × σ) :
    (scene.perform (Act.record event >>= fun _ => Act.ask id f)).2.log.sends = scene.log.sends :=
  scene.sends_perform <|
    (Act.yields_record (P := (·.sent? = none)) hevent).bind fun _ _ => Act.yields_ask _ _

theorem say_yields (mark tail : String) (elapsed : Option Duration) :
    (j.say mark tail elapsed : Act σ Unit).Yields (·.sent? = none) fun _ => True :=
  Act.yields_record rfl

/-- A job that does nothing about its call sends nothing. -/
theorem sends_step_of_idle (hbegins : j.work ≠ .begins)
    (hcalls : ∀ call wake wait, j.work ≠ .calls call wake wait)
    (hstep : Batch.step p s j = some s') : s'.scene.log.sends = s.scene.log.sends := by
  unfold Batch.step at hstep
  cases hwork : j.work with
  | begins => exact absurd hwork hbegins
  | calls call wake wait => exact absurd hwork (hcalls call wake wait)
  | handles f =>
    simp only [hwork] at hstep
    split at hstep
    · cases hstep
      rfl
    · simp only [State.act_eq, Option.some.injEq] at hstep
      subst hstep
      exact sends_record_ask s.scene rfl _
  | answers response =>
    simp only [hwork, State.act_eq, Option.some.injEq] at hstep
    subst hstep
    exact s.scene.sends_perform (Act.yields_onlyIf (say_yields _ _ _))
  | delivers response =>
    simp only [hwork] at hstep
    split at hstep <;> cases hstep <;> rfl
  | fails f =>
    simp only [hwork] at hstep
    split at hstep <;> cases hstep <;> rfl
  | reports f =>
    simp only [hwork, State.act_eq, Option.some.injEq] at hstep
    subst hstep
    exact s.scene.sends_perform (Act.yields_record (P := (·.sent? = none)) rfl)
  | stops | leaves =>
    simp only [hwork, Option.some.injEq] at hstep
    subst hstep
    rfl

/-- A canceled batch sends nothing in a step of a job. -/
theorem sends_step (hcanceled : s.canceled) (hstep : Batch.step p s j = some s') :
    s'.scene.log.sends = s.scene.log.sends := by
  cases hwork : j.work with
  | begins =>
    simp only [Batch.step, hwork, State.act_eq, Option.some.injEq] at hstep
    subst hstep
    have hbegin : (j.begin p s).Yields (·.sent? = none) fun _ => False := by
      unfold Job.begin
      rw [hcanceled]
      exact (Act.yields_onlyIf (say_yields _ _ _)).bind fun _ _ =>
        p.batch.client.begin_canceled _ _ _
    exact s.scene.sends_perform hbegin
  | calls call wake wait =>
    simp only [Batch.step, hwork, State.act_eq] at hstep
    split at hstep
    · cases hstep
      have hresume : (resumed p s call wait).Yields (·.sent? = none) fun _ => False := by
        unfold resumed
        rw [hcanceled]
        exact p.batch.client.resume_canceled _ _ _
      exact s.scene.sends_perform hresume
    · cases hstep
  | handles | answers | delivers | fails | reports | stops | leaves =>
    exact sends_step_of_idle (by simp [hwork]) (by simp [hwork]) hstep

/-- Production sends nothing. -/
theorem sends_produce (hstep : Batch.produce p s = some s') :
    s'.scene.log.sends = s.scene.log.sends := by
  unfold Batch.produce at hstep
  match hproduction : s.production with
  | .asks i =>
    simp only [hproduction, State.act_eq] at hstep
    split at hstep <;>
    · cases hstep
      exact sends_record_ask s.scene rfl _
  | .checks _ | .offers _ _ | .claims _ _ | .adds _ _ =>
    simp only [hproduction, Option.some.injEq] at hstep
    subst hstep
    rfl
  | .queues _ _ =>
    simp only [hproduction] at hstep
    split at hstep
    · cases hstep
      rfl
    · split at hstep <;> cases hstep
      rfl
  | .drains =>
    simp only [hproduction] at hstep
    split at hstep <;> cases hstep
    rfl
  | .over => simp [hproduction] at hstep

/-- A canceled batch sends nothing. -/
theorem sends_of_course (hcourse : Course p s h s') (hcanceled : s.canceled) :
    s'.scene.log.sends = s.scene.log.sends := by
  have hsends : s'.canceled ∧ s'.scene.log.sends = s.scene.log.sends := by
    refine hcourse.invariant
      (I := fun _ s' => s'.canceled ∧ s'.scene.log.sends = s.scene.log.sends) ⟨hcanceled, rfl⟩ ?_
    rintro h e s₁ s₂ ⟨hcanceled, hsends⟩ hmove
    refine ⟨(Stays.move hmove).canceled hcanceled, ?_⟩
    cases hmove with
    | produces hstep => exact (sends_produce hstep).trans hsends
    | advances _ hstep => exact (sends_step hcanceled hstep).trans hsends
    | reads | dismisses | leaves | cancels | passes => exact hsends
  exact hsends.2

/-! ## The end of the results -/

/-- The producer has crashed. -/
def Crashed (h : List Deed) : Prop :=
  ∃ i crash, .asks i (.error (.crash crash)) ∈ h

theorem Crashed.append (hcrashed : Crashed h) (h' : List Deed) : Crashed (h ++ h') := by
  obtain ⟨i, crash, hmem⟩ := hcrashed
  exact ⟨i, crash, List.mem_append_left _ hmem⟩

/-- What holds of the writers at the outlet and of the end of production. -/
structure Ending (h : List Deed) (s : State σ) : Prop where
  writers : s.outlet.writers = s.jobs.length + s.production.writers
  /-- Once a job has failed, the outlet is canceled, or a job is about to cancel it. -/
  reported : s.failed → s.outlet.canceled ∨ ∃ k ∈ s.jobs, ∃ f, k.work = .reports f
  done : s.production = .over → s.jobs = [] ∨ Crashed h

namespace Ending

theorem start {scene : Scene σ} {canceled : Bool} (hlaunch : p.launch scene canceled = .ok s) :
    Ending [] s := by
  obtain rfl := eq_start_of_launch hlaunch
  exact ⟨rfl, by simp [Plan.start], by simp [Plan.start]⟩

/-- Something else than that jobs come or go, or fail, or that production ends. -/
theorem congr (hn : Ending h s) (hwriters : s'.outlet.writers = s.outlet.writers)
    (hshut : s.outlet.canceled → s'.outlet.canceled) (hjobs : s'.jobs = s.jobs)
    (hfailed : s'.failed = s.failed)
    (hproduction : s'.production.writers = s.production.writers)
    (hover : s'.production = .over → s.production = .over) : Ending (h ++ [e]) s' where
  writers := by rw [hwriters, hjobs, hproduction, hn.writers]
  reported hf := by
    rw [hjobs]
    exact (hn.reported (hfailed ▸ hf)).imp_left hshut
  done ho := by
    rw [hjobs]
    exact (hn.done (hover ho)).imp_right (·.append _)

/-- Another job than one that is about to report does something. -/
theorem index_ne {k : Job} {f : Failure} (hs : s.Distinct) (hj : s.job? j.index = some j)
    (hne : ∀ f, j.work ≠ .reports f) (hk : k ∈ s.jobs) (hwork : k.work = .reports f) :
    k.index ≠ j.index := by
  intro hindex
  have hkj := State.job?_of_mem hs hk
  rw [hindex, hj] at hkj
  cases hkj
  exact hne f hwork

/-- There is other work for a job. -/
theorem setWork {work : Work} (hn : Ending h s) (hs : s.Distinct) (hj : s.job? j.index = some j)
    (hjobs : s₁.jobs = s.jobs) (hproduction : s₁.production = s.production)
    (hwriters : s₁.outlet.writers = s.outlet.writers)
    (hshut : s.outlet.canceled → s₁.outlet.canceled)
    (hreported : s₁.failed → s₁.outlet.canceled ∨ (∃ f, work = .reports f) ∨
      (s.failed ∧ ∀ f, j.work ≠ .reports f)) :
    Ending (h ++ [e]) (s₁.setWork j.index work) where
  writers := by
    rw [State.length_setWork, hjobs]
    exact hwriters.trans (hn.writers.trans (by rw [← hproduction]; rfl))
  reported hf := by
    rcases hreported hf with hcanceled | ⟨f, rfl⟩ | ⟨hfailed, hne⟩
    · exact .inl hcanceled
    · refine .inr ⟨{ j with work := .reports f }, ?_, f, rfl⟩
      exact List.mem_map.2 ⟨j, hjobs ▸ State.mem_of_job? hj, if_pos rfl⟩
    · rcases hn.reported hfailed with hcanceled | ⟨k, hk, f, hwork⟩
      · exact .inl (hshut hcanceled)
      · refine .inr ⟨k, ?_, f, hwork⟩
        exact List.mem_map.2 ⟨k, hjobs ▸ hk, if_neg (index_ne hs hj hne hk hwork)⟩
  done ho := by
    refine (hn.done (hproduction ▸ ho)).imp (fun hnone => ?_) (·.append _)
    rw [← List.length_eq_zero_iff, State.length_setWork, hjobs, hnone]
    rfl

theorem step (hn : Ending h s) (hs : s.Distinct) (hj : s.job? j.index = some j)
    (heffect : JobEffect s j e s') : Ending (h ++ [e]) s' := by
  cases heffect with
  | works hne hjobs hproduction houtlet _ hfailed =>
    refine hn.setWork hs hj hjobs hproduction (by rw [houtlet]) (by simp [houtlet]) fun hf => ?_
    exact .inr ((hfailed hf).symm.imp_right fun hf => ⟨hf, hne⟩)
  | delivers hne => exact hn.setWork hs hj rfl rfl rfl id fun hf => .inr (.inr ⟨hf, hne⟩)
  | reports =>
    exact hn.setWork hs hj rfl rfl (by simp) (by simp) fun _ => .inl (by simp)
  | leaves hne =>
    constructor
    case writers =>
      have hlength := State.length_dropJob hs hj
      have hwriters := hn.writers
      change s.outlet.writers - 1 = (s.dropJob j.index).jobs.length + s.production.writers
      omega
    case reported =>
      intro hf
      refine (hn.reported hf).imp_right ?_
      rintro ⟨k, hk, f, hwork⟩
      refine ⟨k, List.mem_filter.2 ⟨hk, ?_⟩, f, hwork⟩
      simpa using index_ne hs hj hne hk hwork
    case done =>
      intro ho
      refine (hn.done ho).imp (fun hnone => ?_) (·.append _)
      simp [State.dropJob, hnone]

/-- Production ends, and a writer is gone. -/
theorem endProduction (hn : Ending h s) (hwriters : s.production.writers = 1)
    (hshut : s.outlet.canceled → s₁.outlet.canceled) (hjobs : s₁.jobs = s.jobs)
    (hfailed : s₁.failed = s.failed) (hsame : s₁.outlet.writers = s.outlet.writers)
    (hover : s.jobs = [] ∨ Crashed (h ++ [e])) : Ending (h ++ [e]) s₁.endProduction where
  writers := by
    have hbefore := hn.writers
    change s₁.outlet.writers - 1 = s₁.jobs.length + 0
    rw [hjobs, hsame, hbefore, hwriters]
    rfl
  reported hf := by
    change s₁.outlet.canceled ∨ ∃ k ∈ s₁.jobs, ∃ f, k.work = .reports f
    rw [hjobs]
    exact (hn.reported (hfailed ▸ hf)).imp_left hshut
  done _ := by
    change s₁.jobs = [] ∨ _
    rwa [hjobs]

theorem produce (hn : Ending h s) (hstep : Batch.produce p s = some s') :
    Ending (h ++ [doneByProduction p s]) s' := by
  obtain ⟨_, hshown⟩ := exists_productionStep hstep
  cases hshown with
  | checks hproduction | gives hproduction | asks _ hproduction | exhausts _ hproduction
    | stops hproduction | offers hproduction | claims hproduction | queues hproduction
    | quits hproduction | wakes hproduction =>
    exact hn.congr rfl id rfl rfl (by rw [hproduction]; rfl) (by simp)
  | fails _ hproduction =>
    exact hn.congr (by simp) (by simp) rfl rfl (by rw [hproduction]; rfl) (by simp)
  | @crashes i crash _ hproduction hanswer =>
    refine hn.endProduction (by rw [hproduction]; rfl) id rfl rfl rfl (.inr ⟨i, crash, ?_⟩)
    simp [doneByProduction, hproduction, hanswer]
  | adds hproduction =>
    have hwriters := hn.writers
    rw [hproduction] at hwriters
    constructor
    case writers =>
      simp only [State.addJob, Outlet.addWriter, List.length_append, List.length_singleton,
        Production.writers] at hwriters ⊢
      omega
    case reported =>
      intro hf
      refine (hn.reported hf).imp_right ?_
      rintro ⟨k, hk, hwork⟩
      exact ⟨k, List.mem_append_left _ hk, hwork⟩
    case done => simp
  | drains hproduction hjobs =>
    exact hn.endProduction (by rw [hproduction]; rfl) id rfl rfl rfl (.inl hjobs)
  | drainsCanceled hproduction hjobs =>
    exact hn.endProduction (by rw [hproduction]; rfl) (by simp) rfl rfl (by simp) (.inl hjobs)

theorem move (hn : Ending h s) (hs : s.Distinct) (hmove : Move p s e s') :
    Ending (h ++ [e]) s' := by
  cases hmove with
  | produces hstep => exact hn.produce hstep
  | advances hj hstep => exact hn.step hs hj (.of_step hstep)
  | reads _ hnext =>
    cases Outlet.Reading.of_next hnext <;> exact hn.congr rfl id rfl rfl rfl id
  | dismisses => exact hn.congr (by simp) (by simp) rfl rfl rfl id
  | leaves => exact hn.congr (by simp [Outlet.close]) (by simp [Outlet.close]) rfl rfl rfl id
  | cancels | passes => exact hn.congr rfl id rfl rfl rfl id

theorem of_course {scene : Scene σ} {canceled : Bool}
    (hlaunch : p.launch scene canceled = .ok s₀) (hcourse : Course p s₀ h s) : Ending h s := by
  induction hcourse with
  | nil => exact start hlaunch
  | snoc hcourse hmove ih => exact ih.move (Census.of_course hlaunch hcourse).distinct hmove

/-- When the reader is told of the end, production is over and all jobs are done. -/
theorem done_of_next {outlet : Outlet Outcome} (hn : Ending h s)
    (hnext : s.outlet.next = some (.ok none, outlet)) :
    s.outlet.canceled = false ∧ s.production = .over ∧ s.jobs = [] := by
  cases Outlet.Reading.of_next hnext with
  | ends hcanceled _ hwriters =>
    have hnone : s.jobs.length + s.production.writers = 0 := hn.writers.symm.trans hwriters
    obtain ⟨hjobs, hproduction⟩ := Nat.add_eq_zero_iff.1 hnone
    refine ⟨hcanceled, ?_, List.length_eq_zero_iff.1 hjobs⟩
    unfold Production.writers at hproduction
    split at hproduction
    · next hover => exact hover
    · cases hproduction

end Ending

theorem JobEffect.production (heffect : JobEffect s j e s') : s'.production = s.production := by
  cases heffect with
  | works _ _ hproduction => exact hproduction
  | delivers | reports | leaves => rfl

/-- Production of a canceled batch cancels the outlet when it ends, unless somebody has done so. -/
theorem shut_of_produce (hn : Ending h s) (hcanceled : s.canceled)
    (hstep : Batch.produce p s = some s') (hover : s'.production = .over) :
    s'.outlet.canceled ∨ Crashed [doneByProduction p s] := by
  obtain ⟨_, hshown⟩ := exists_productionStep hstep
  cases hshown with
  | checks | gives | asks | exhausts | fails | stops | offers | claims | queues | quits | wakes
    | adds => cases hover
  | @crashes i crash _ hproduction hanswer =>
    exact .inr ⟨i, crash, by simp [doneByProduction, hproduction, hanswer]⟩
  | drains _ hjobs hquiet =>
    have hfailed : s.failed := hquiet.resolve_right (by simp [hcanceled])
    refine .inl ((hn.reported hfailed).resolve_right ?_)
    simp [hjobs]
  | drainsCanceled => exact .inl (by simp [State.endProduction, Outlet.dropWriter])

theorem next_of_reads {answer : Except Failure (Option Outcome)} (hmove : Move p s e s')
    (he : e = .reads answer) : ∃ outlet, s.outlet.next = some (answer, outlet) := by
  cases hmove with
  | produces =>
    unfold doneByProduction at he
    split at he <;> cases he
  | advances _ hstep =>
    have heffect := JobEffect.of_step hstep
    rw [he] at heffect
    cases heffect
  | reads _ hnext =>
    cases he
    exact ⟨_, hnext⟩
  | dismisses | leaves | cancels | passes => cases he

/-- If production of a canceled batch was not over, the outlet is canceled when it is. -/
theorem shut_of_course {scene : Scene σ} {canceled : Bool}
    (hlaunch : p.launch scene canceled = .ok s₀) (hbefore : Course p s₀ before s₁)
    (hafter : Course p s₁ after s) (hcanceled : s₁.canceled) :
    s.canceled ∧ (s.production = .over →
      s₁.production = .over ∨ s.outlet.canceled ∨ Crashed after) := by
  induction hafter with
  | nil => exact ⟨hcanceled, .inl⟩
  | @snoc after e s₂ s hafter hmove ih =>
    obtain ⟨hcanceled₂, hover₂⟩ := ih
    have hstays := Stays.move hmove
    refine ⟨hstays.canceled hcanceled₂, fun hover => ?_⟩
    have hkeep (hsame : s.production = s₂.production) :
        s₁.production = .over ∨ s.outlet.canceled ∨ Crashed (after ++ [e]) :=
      (hover₂ (hsame ▸ hover)).imp_right (Or.imp hstays.shut (·.append _))
    cases hmove with
    | produces hstep =>
      have hn := Ending.of_course hlaunch (hbefore.append hafter)
      refine .inr ((shut_of_produce hn hcanceled₂ hstep hover).imp_right ?_)
      rintro ⟨i, crash, hmem⟩
      exact ⟨i, crash, List.mem_append_right _ hmem⟩
    | advances _ hstep => exact hkeep (JobEffect.of_step hstep).production
    | reads | dismisses | leaves | cancels | passes => exact hkeep rfl

/-! ## Stopping -/

/-- A batch with one worker. Its producer crashes after the first request, its limiter lets calls
through after a tenth of a second, and its handler drops what fails. -/
def broken : Plan Unit where
  batch := {
    client := {
      base := none
      limiter := some {
        report := fun now w => (.ok ⟨0, 0, now⟩, w)
        next := fun _ _ w => (.ok 100000000, w)
        update := fun _ _ _ w => (.ok (), w) }
      transport := fun _ _ w => (⟨0, .ok ⟨200, none, {}, none, none⟩⟩, w)
      retryStatuses := []
      backoff := 0
      headers := {}
      contentType := ""
      tracing := {} }
    workers := 1
    handler := some fun _ w => (.ok none, w) }
  producer := fun i w =>
    (if i = 0 then .ok (some { target := "mem:a" }) else .crashed (.ofText "broken"), w)

end Courier.Batch.Session
