import Courier.Proofs.Batch.Liveness
import Courier.Proofs.Batch.Loop

/-!
# One worker

A batch with one worker and a list of requests goes along with the plain loop, however its
production, its jobs and its reader take turns (`Session.Solo.move`). Production is ahead of the
loop, but it gets no further than to wait for the worker with the next request. They part only if a
job fails for good just after production has looked whether the batch is to go on with that request.
Then the worker is free for it, and from there on the batch is alone.

The two are compared step by step. Most steps of a batch are none of the loop. A piece of a call
is a step of both, and the end of a call one more step of the loop, if no handler is to be asked
(`Session.Phase` says where the loop is meanwhile). In between, the batch may trace more and its
time may go on (`Scene.Lags`).
-/

namespace Courier

/-! ## Scenes that lag behind -/

namespace Scene

variable {σ α : Type} {s s' s₁ : Scene σ}

/-- A scene is not later than another, and apart from traces nothing else happened in the other. -/
structure Lags (s s' : Scene σ) : Prop where
  epoch : s.clock.epoch = s'.clock.epoch
  now : s.clock.now ≤ s'.clock.now
  world : s.world = s'.world
  sends : s.log.sends = s'.log.sends

namespace Lags

theorem refl (s : Scene σ) : s.Lags s :=
  ⟨rfl, Int.le_refl _, rfl, rfl⟩

theorem trans (h : s.Lags s') (h' : s'.Lags s₁) : s.Lags s₁ :=
  ⟨h.epoch.trans h'.epoch, Int.le_trans h.now h'.now, h.world.trans h'.world,
    h.sends.trans h'.sends⟩

theorem later (h : s.Lags s') {t : Instant} (ht : s'.clock.now ≤ t) : s.Lags (s'.later t) :=
  ⟨h.epoch, Int.le_trans h.now ht, h.world, h.sends⟩

theorem note (s : Scene σ) {e : Event} (he : e.sent? = none) : s.Lags (s.note e) :=
  ⟨rfl, Int.le_refl _, rfl, by simp [Scene.note, Timeline.sends, he]⟩

/-- At the same time, a piece of a call comes to the same. -/
theorem perform (h : s.Lags s') (act : Act σ α) :
    ((s.later s'.clock.now).perform act).1 = (s'.perform act).1 ∧
      ((s.later s'.clock.now).perform act).2.Lags (s'.perform act).2 := by
  have hworld := h.world
  have hsends := h.sends
  unfold Scene.perform
  simp only [Scene.later, hworld]
  exact ⟨trivial, h.epoch, Int.le_refl _, rfl, by simp only [Timeline.sends_append, hsends]⟩

/-- A piece that sends nothing comes to the same at any time. -/
theorem perform_silent (h : s.Lags s') {act : Act σ α} {Q : α → Prop}
    (hact : act.Yields (·.sent? = none) Q) :
    (s.perform act).1 = (s'.perform act).1 ∧ (s.perform act).2.Lags (s'.perform act).2 := by
  have hworld := h.world
  have hsends := (s.sends_perform hact).trans (h.sends.trans (s'.sends_perform hact).symm)
  unfold Scene.perform at hsends ⊢
  rw [hworld] at hsends ⊢
  exact ⟨rfl, h.epoch, h.now, rfl, hsends⟩

theorem clock_eq (h : s.Lags s') : (s.later s'.clock.now).clock = s'.clock := by
  have hepoch := h.epoch
  simp only [Scene.later, hepoch]

end Lags

/-- A trace changes nothing but the log. -/
theorem perform_onlyIf_record (s : Scene σ) (condition : Bool) {e : Event} (he : e.sent? = none) :
    ∃ s', s.perform (Act.onlyIf condition (Act.record e)) = (.ok (), s') ∧ s.Lags s' ∧
      s'.clock = s.clock := by
  cases condition with
  | false => exact ⟨s, s.perform_pure _, Lags.refl s, rfl⟩
  | true => exact ⟨_, s.perform_record e, Lags.note s he, rfl⟩

end Scene

namespace Batch.Session

open Loop (Stage)

variable {σ : Type} {p : Plan σ} {requests : List Request} {On : Instant → Instant → Prop}
  {scene : Scene σ} {s s' s₀ : State σ} {l l' : Loop σ} {e : Deed} {h : List Deed} {j : Job}
  {index calls : Nat} {request : Request} {work work' : Work} {stage : Stage}
  {rest pending : List Outcome} {f : Failure}

/-! ## Where the loop is -/

/-- Production stands at an index, and holds no place for its request. -/
inductive Ahead (p : Plan σ) (requests : List Request) (index : Nat) : Production → Prop where
  | checks : Ahead p requests index (.checks index)
  | asks : Ahead p requests index (.asks index)
  | offers {request : Request} (hrequest : requests[index]? = some request) :
      Ahead p requests index (.offers index (request.configure p.settings.headers))
  | claims {request : Request} (hrequest : requests[index]? = some request) :
      Ahead p requests index (.claims index (request.configure p.settings.headers))
  | queues {request : Request} (hrequest : requests[index]? = some request) :
      Ahead p requests index (.queues index (request.configure p.settings.headers))
  | drains (hrequest : requests[index]? = none) : Ahead p requests index .drains

/-- Where the loop is while the job at an index does some work, and what the job has for the
outlet. -/
inductive Doing (p : Plan σ) (requests : List Request) (index : Nat) (request : Request)
    (calls : Nat) : Work → Stage → List Outcome → Prop where
  | begins {given : Request} (hrequest : requests[index]? = some given)
      (hconfigured : request = given.configure p.settings.headers) (hcalls : calls = index) :
      Doing p requests index request calls .begins (.takes index) []
  | calls {call : Call} {wake : Instant} {wait : Call.Wait} (hcalls : calls = index + 1) :
      Doing p requests index request calls (.calls call wake wait) (.waits index call wake wait) []
  | handles {f : Failure} (hcalls : calls = index + 1) :
      Doing p requests index request calls (.handles f) (.judges index (.error (.error f))) []
  | answers {response : Response} (hcalls : calls = index + 1) :
      Doing p requests index request calls (.answers response) (.takes (index + 1))
        [⟨index, response⟩]
  | delivers {response : Response} (hcalls : calls = index + 1) :
      Doing p requests index request calls (.delivers response) (.takes (index + 1))
        [⟨index, response⟩]
  | leaves (hcalls : calls = index + 1) :
      Doing p requests index request calls .leaves (.takes (index + 1)) []

theorem Doing.stage_ne_over {failure : Option Failure}
    (hd : Doing p requests index request calls work stage pending) : stage ≠ .over failure := by
  cases hd <;> nofun

/-- Nothing has gone wrong, and nobody has canceled anything. -/
structure Clear (s : State σ) : Prop where
  failed : s.failed = false
  stopped : s.stopped = false
  outlet : s.outlet.refuses = false

/-- A job that is the only one has failed for good, or did so before it left. -/
inductive Doomed (f : Failure) (s : State σ) : Prop where
  | stays {j : Job} (hjobs : s.jobs = [j])
      (hproduction : ∀ i request, s.production ≠ .adds i request)
      (hwork : j.work = .fails f ∨ j.work = .reports f ∨ j.work = .stops ∨
        j.work = .leaves ∧ s.stopped)
  | left (hjobs : s.jobs = []) (hstopped : s.stopped)

/-- A job that failed for good has nothing to do with the scene, nor with the outlet. -/
theorem Doomed.congr (hd : Doomed f s) (hjobs : s'.jobs = s.jobs)
    (hproduction : s'.production = s.production) (hstopped : s'.stopped = s.stopped) :
    Doomed f s' := by
  cases hd with
  | stays hj hadds hwork =>
    exact .stays (hjobs.trans hj) (hproduction ▸ hadds) (hstopped ▸ hwork)
  | left hj hdone => exact .left (hjobs.trans hj) (hstopped.trans hdone)

/-- Where the loop is in a state of the batch, and which of its responses the reader has still to
take. -/
inductive Phase (p : Plan σ) (requests : List Request) : Stage → List Outcome → State σ → Prop where
  /-- Production is to give the next job. -/
  | idle {s : State σ} {index : Nat} (hjobs : s.jobs = [])
      (hproduction : Ahead p requests index s.production) (hcalls : s.calls = index)
      (hclear : Clear s) : Phase p requests (.takes index) s.outlet.buffer s
  /-- Production has the worker for the next job. -/
  | holds {s : State σ} {index : Nat} {request : Request} (hjobs : s.jobs = [])
      (hrequest : requests[index]? = some request)
      (hproduction : s.production = .adds index (request.configure p.settings.headers))
      (hcalls : s.calls = index) (hclear : Clear s) :
      Phase p requests (.takes index) s.outlet.buffer s
  /-- There is no more to do than to read what is left. -/
  | exhausted {s : State σ} {index : Nat} (hjobs : s.jobs = []) (hproduction : s.production = .over)
      (hrequest : requests[index]? = none) (hclear : Clear s) :
      Phase p requests (.takes index) s.outlet.buffer s
  | busy {s : State σ} {j : Job} {stage : Stage} {pending : List Outcome} (hjobs : s.jobs = [j])
      (hproduction : Ahead p requests (j.index + 1) s.production) (hclear : Clear s)
      (hdoing : Doing p requests j.index j.request s.calls j.work stage pending) :
      Phase p requests stage (s.outlet.buffer ++ pending) s
  | doomed {s : State σ} {f : Failure} {rest : List Outcome} (hdoomed : Doomed f s)
      (hopen : s.outlet.canceled = false → rest = s.outlet.buffer ∧ ∃ j, s.jobs = [j] ∧
        (j.work = .fails f ∧ s.failed = false ∨ j.work = .reports f)) :
      Phase p requests (.over (some f)) rest s
  /-- The reader was told that there is no more. -/
  | done {s : State σ} (hjobs : s.jobs = []) (hproduction : s.production = .over)
      (hfailed : s.failed = false) : Phase p requests (.over none) [] s

/-- A phase has nothing to do with the scene. -/
theorem Phase.setScene (hphase : Phase p requests stage rest s) (scene : Scene σ) :
    Phase p requests stage rest { s with scene } := by
  have hclear' (hclear : Clear s) : Clear { s with scene } :=
    ⟨hclear.failed, hclear.stopped, hclear.outlet⟩
  cases hphase with
  | idle hjobs hproduction hcalls hclear =>
    exact .idle (s := { s with scene }) hjobs hproduction hcalls (hclear' hclear)
  | holds hjobs hrequest hproduction hcalls hclear =>
    exact .holds (s := { s with scene }) hjobs hrequest hproduction hcalls (hclear' hclear)
  | exhausted hjobs hproduction hrequest hclear =>
    exact .exhausted (s := { s with scene }) hjobs hproduction hrequest (hclear' hclear)
  | busy hjobs hproduction hclear hdoing =>
    exact .busy (s := { s with scene }) hjobs hproduction (hclear' hclear) hdoing
  | doomed hdoomed hopen => exact .doomed (hdoomed.congr rfl rfl rfl) hopen
  | done hjobs hproduction hfailed => exact .done hjobs hproduction hfailed

/-! ## Production -/

/-- What a step of production that adds no job leaves as it is. -/
structure Beside (s s' : State σ) : Prop where
  jobs : s'.jobs = s.jobs
  failed : s'.failed = s.failed
  stopped : s'.stopped = s.stopped
  canceled : s'.canceled = s.canceled
  calls : s'.calls = s.calls
  buffer : s'.outlet.buffer = s.outlet.buffer
  shut : s'.outlet.canceled = s.outlet.canceled
  closed : s'.outlet.closed = s.outlet.closed
  cause : s'.outlet.cause = s.outlet.cause

theorem Beside.clear (hb : Beside s s') (hclear : Clear s) : Clear s' where
  failed := hb.failed.trans hclear.failed
  stopped := hb.stopped.trans hclear.stopped
  outlet := by
    have := hclear.outlet
    rwa [Outlet.refuses, ← hb.shut, ← hb.closed] at this

/-- What production of a list of requests does in a step, if nobody cancels the batch. -/
inductive Advance (p : Plan σ) (requests : List Request) (s s' : State σ) : Prop where
  /-- It goes on without a job. -/
  | beside (hbeside : Beside s s') (hkeeps : ∀ index, Ahead p requests index s.production →
      Clear s → Ahead p requests index s'.production)
      (hadds : ∀ i request, s'.production ≠ .adds i request)
  /-- It gets the worker for a job. -/
  | holds {index : Nat} {request : Request} (hbeside : Beside s s')
      (hbefore : s.production = .claims index request) (hplace : s.jobs.length < p.batch.places)
      (hafter : s'.production = .adds index request)
  | adds {index : Nat} {request : Request} (hproduction : s.production = .adds index request)
      (hs' : s' = { s.addJob index request with production := .checks (index + 1) })
  | ends (hbeside : Beside s s') (hbefore : s.production = .drains) (hjobs : s.jobs = [])
      (hafter : s'.production = .over)

theorem Advance.of_produce (hproducer : p.producer = .ofList requests)
    (hcanceled : s.canceled = false) (hstep : produce p s = some s') :
    Advance p requests s s' := by
  obtain ⟨_, hshown⟩ := exists_productionStep hstep
  have hgiven {i : Nat} {answer : Answer Failure (Option Request)}
      (hanswer : (p.producer i s.scene.world).1 = answer) : .ok requests[i]? = answer := by
    rw [← hanswer, hproducer]
    rfl
  cases hshown with
  | checks hproduction =>
    refine .beside (by constructor <;> rfl) (fun index hahead _ => ?_) nofun
    rw [hproduction] at hahead
    cases hahead
    exact .asks
  | gives hproduction hends =>
    refine .beside (by constructor <;> rfl) (fun index _ hclear => ?_) nofun
    rcases hends with hends | hends
    · simp [hcanceled] at hends
    · simp [hclear.outlet] at hends
  | asks scene hproduction hanswer =>
    refine .beside (by constructor <;> rfl) (fun index hahead _ => ?_) nofun
    rw [hproduction] at hahead
    cases hahead
    exact .offers (Except.ok.inj (hgiven hanswer))
  | exhausts scene hproduction hanswer =>
    refine .beside (by constructor <;> rfl) (fun index hahead _ => ?_) nofun
    rw [hproduction] at hahead
    cases hahead
    exact .drains (Except.ok.inj (hgiven hanswer))
  | fails _ _ hanswer | crashes _ _ hanswer => cases hgiven hanswer
  | stops hproduction hstopped | quits hproduction hstopped =>
    refine .beside (by constructor <;> rfl) (fun index _ hclear => ?_) nofun
    rcases hstopped with hstopped | hstopped
    · simp [hclear.stopped] at hstopped
    · simp [hcanceled] at hstopped
  | offers hproduction =>
    refine .beside (by constructor <;> rfl) (fun index hahead _ => ?_) nofun
    rw [hproduction] at hahead
    cases hahead with
    | offers hrequest => exact .claims hrequest
  | wakes hproduction =>
    refine .beside (by constructor <;> rfl) (fun index hahead _ => ?_) nofun
    rw [hproduction] at hahead
    cases hahead with
    | queues hrequest => exact .claims hrequest
  | claims hproduction hplace => exact .holds (by constructor <;> rfl) hproduction hplace rfl
  | queues hproduction =>
    refine .beside (by constructor <;> rfl) (fun index hahead _ => ?_) nofun
    rw [hproduction] at hahead
    cases hahead with
    | claims hrequest => exact .queues hrequest
  | adds hproduction => exact .adds hproduction rfl
  | drains hproduction hjobs => exact .ends (by constructor <;> rfl) hproduction hjobs rfl
  | drainsCanceled _ _ _ hdone => simp [hcanceled] at hdone

/-- A job that failed for good stays the last one, unless production has the worker by now. -/
theorem Doomed.produce (hd : Doomed f s) (hproducer : p.producer = .ofList requests)
    (hworkers : p.batch.workers = 1) (hcanceled : s.canceled = false)
    (hadds : ∀ i request, s.production ≠ .adds i request)
    (hstep : Batch.produce p s = some s') : Doomed f s' ∧ Beside s s' := by
  cases Advance.of_produce hproducer hcanceled hstep with
  | beside hb _ hadds' =>
    refine ⟨?_, hb⟩
    cases hd with
    | stays hjobs _ hwork => exact .stays (hb.jobs.trans hjobs) hadds' (hb.stopped ▸ hwork)
    | left hjobs hstopped => exact .left (hb.jobs.trans hjobs) (hb.stopped.trans hstopped)
  | holds hb _ hplace =>
    cases hd with
    | stays hjobs => simp [hjobs, places, hworkers] at hplace
    | left hjobs hstopped =>
      exact ⟨.left (hb.jobs.trans hjobs) (hb.stopped.trans hstopped), hb⟩
  | adds hproduction => exact absurd hproduction (hadds _ _)
  | ends hb _ hnone =>
    cases hd with
    | stays hjobs => simp [hjobs] at hnone
    | left hjobs hstopped =>
      exact ⟨.left (hb.jobs.trans hjobs) (hb.stopped.trans hstopped), hb⟩

/-- Production never makes the loop move, while it adds no job after the end of the loop. -/
theorem Phase.produce (hphase : Phase p requests stage rest s)
    (hproducer : p.producer = .ofList requests) (hworkers : p.batch.workers = 1)
    (hcanceled : s.canceled = false)
    (hadds : ∀ f, stage = .over (some f) → ∀ i request, s.production ≠ .adds i request)
    (hstep : Batch.produce p s = some s') : Phase p requests stage rest s' := by
  have hadvance := Advance.of_produce hproducer hcanceled hstep
  cases hphase with
  | idle hjobs hproduction hcalls hclear =>
    cases hadvance with
    | beside hb hkeeps =>
      rw [← hb.buffer]
      exact .idle (hb.jobs.trans hjobs) (hkeeps _ hproduction hclear) (hb.calls.trans hcalls)
        (hb.clear hclear)
    | holds hb hbefore _ hafter =>
      rw [hbefore] at hproduction
      cases hproduction with
      | claims hrequest =>
        rw [← hb.buffer]
        exact .holds (hb.jobs.trans hjobs) hrequest hafter (hb.calls.trans hcalls)
          (hb.clear hclear)
    | adds hadds =>
      rw [hadds] at hproduction
      cases hproduction
    | ends hb hbefore _ hafter =>
      rw [hbefore] at hproduction
      cases hproduction with
      | drains hrequest =>
        rw [← hb.buffer]
        exact .exhausted (hb.jobs.trans hjobs) hafter hrequest (hb.clear hclear)
  | @holds _ index request hjobs hrequest hproduction hcalls hclear =>
    simp only [Batch.produce, hproduction, Option.some.injEq] at hstep
    subst hstep
    have hjob : { s.addJob index (request.configure p.settings.headers) with
          production := .checks (index + 1) }.jobs =
        [{ index, request := request.configure p.settings.headers
           start := s.scene.clock.now }] := by
      simp only [State.addJob, hjobs, List.nil_append]
    rw [← List.append_nil s.outlet.buffer]
    exact .busy hjob .checks ⟨hclear.failed, hclear.stopped, hclear.outlet⟩
      (.begins hrequest rfl hcalls)
  | exhausted _ hproduction | done _ hproduction => simp [Batch.produce, hproduction] at hstep
  | busy hjobs hproduction hclear hdoing =>
    cases hadvance with
    | beside hb hkeeps =>
      rw [← hb.buffer]
      exact .busy (hb.jobs.trans hjobs) (hkeeps _ hproduction hclear) (hb.clear hclear)
        (hb.calls ▸ hdoing)
    | holds _ _ hplace => simp [hjobs, places, hworkers] at hplace
    | adds hadds =>
      rw [hadds] at hproduction
      cases hproduction
    | ends _ _ hnone => simp [hjobs] at hnone
  | doomed hdoomed hopen =>
    obtain ⟨hdoomed', hb⟩ := hdoomed.produce hproducer hworkers hcanceled (hadds _ rfl) hstep
    exact .doomed hdoomed' (by rw [hb.shut, hb.buffer, hb.jobs, hb.failed]; exact hopen)

/-- Production of a list asks nobody in the world. -/
theorem lags_produce (hproducer : p.producer = .ofList requests) (hstep : produce p s = some s') :
    s.scene.Lags s'.scene ∧ s'.scene.clock = s.scene.clock := by
  have hsame : s.scene.Lags s.scene ∧ s.scene.clock = s.scene.clock := ⟨.refl _, rfl⟩
  unfold produce at hstep
  match hproduction : s.production with
  | .asks i =>
    simp only [hproduction, State.act_eq] at hstep
    have hlags : s.scene.Lags (s.scene.perform (do
        Act.record (.produces i)
        Act.ask id (p.producer i))).2 := by
      rw [s.scene.perform_bind _ fun _ => Act.yields_ask (P := fun _ => True) _ _,
        Scene.perform_record]
      simp only [Scene.perform_ask, hproducer, Producer.ofList]
      exact .note _ rfl
    split at hstep <;> cases hstep <;> exact ⟨hlags, rfl⟩
  | .checks _ | .offers _ _ | .claims _ _ | .adds _ _ =>
    simp only [hproduction, Option.some.injEq] at hstep
    subst hstep
    exact hsame
  | .queues _ _ =>
    simp only [hproduction] at hstep
    split at hstep
    · cases hstep
      exact hsame
    · split at hstep <;> cases hstep
      exact hsame
  | .drains =>
    simp only [hproduction] at hstep
    split at hstep <;> cases hstep
    exact hsame
  | .over => simp [hproduction] at hstep

/-! ## A job that has failed -/

/-- The only job is the one that is found. -/
theorem eq_of_job? {k : Job} (hjobs : s.jobs = [k]) (hj : s.job? j.index = some j) : k = j := by
  have hmem := State.mem_of_job? hj
  rw [hjobs] at hmem
  exact (List.mem_singleton.1 hmem).symm

theorem jobs_setWork (hjobs : s.jobs = [j]) :
    (s.setWork j.index work).jobs = [{ j with work }] := by
  simp [State.setWork, hjobs]

theorem jobs_dropJob (hjobs : s.jobs = [j]) : (s.dropJob j.index).jobs = [] := by
  simp [State.dropJob, hjobs]

/-- What a job that failed for good does until it leaves. -/
inductive DoomedStep (f : Failure) (s : State σ) (j : Job) : State σ → Prop where
  | reports (hwork : j.work = .fails f) (hfirst : s.failed = false) :
      DoomedStep f s j ({ s with failed := true }.setWork j.index (.reports f))
  | stops (hwork : j.work = .fails f) (hfailed : s.failed) :
      DoomedStep f s j (s.setWork j.index .stops)
  | cancels (scene : Scene σ) (hscene : s.scene.Lags scene ∧ scene.clock = s.scene.clock)
      (hwork : j.work = .reports f) :
      DoomedStep f s j ({ s with scene, outlet := s.outlet.cancel f }.setWork j.index .stops)
  | leaves (hwork : j.work = .stops) :
      DoomedStep f s j ({ s with stopped := true }.setWork j.index .leaves)
  | ends (hwork : j.work = .leaves) (hstopped : s.stopped) : DoomedStep f s j (s.dropJob j.index)

theorem DoomedStep.of_step (hd : Doomed f s) (hj : s.job? j.index = some j)
    (hstep : Batch.step p s j = some s') : DoomedStep f s j s' ∧ s.jobs = [j] := by
  cases hd with
  | stays hjobs _ hwork =>
    obtain rfl := eq_of_job? hjobs hj
    refine ⟨?_, hjobs⟩
    unfold Batch.step at hstep
    rcases hwork with hwork | hwork | hwork | ⟨hwork, hstopped⟩ <;> simp only [hwork] at hstep
    · split at hstep
      · next hfailed =>
        cases hstep
        exact .stops hwork hfailed
      · next hfirst =>
        cases hstep
        exact .reports hwork (Bool.eq_false_iff.2 hfirst)
    · simp only [State.act_eq, Scene.perform_record, Option.some.injEq] at hstep
      subst hstep
      exact .cancels _ ⟨.note _ rfl, rfl⟩ hwork
    · cases hstep
      exact .leaves hwork
    · cases hstep
      exact .ends hwork hstopped
  | left hjobs =>
    have hmem := State.mem_of_job? hj
    rw [hjobs] at hmem
    cases hmem

theorem Doomed.step (hd : Doomed f s) (hj : s.job? j.index = some j)
    (hstep : Batch.step p s j = some s') : Doomed f s' := by
  obtain ⟨hdoomed, hjobs⟩ := DoomedStep.of_step hd hj hstep
  have hadds : ∀ i request, s.production ≠ .adds i request := by
    cases hd with
    | stays _ hadds => exact hadds
    | left hnone => simp [hnone] at hjobs
  cases hdoomed with
  | reports => exact .stays (jobs_setWork hjobs) hadds (.inr (.inl rfl))
  | stops | cancels => exact .stays (jobs_setWork hjobs) hadds (.inr (.inr (.inl rfl)))
  | leaves => exact .stays (jobs_setWork hjobs) hadds (.inr (.inr (.inr ⟨rfl, rfl⟩)))
  | ends _ hstopped => exact .left (jobs_dropJob hjobs) hstopped

/-! ## The pieces of a call -/

/-- The next piece of the loop is not too early at an instant, nor too late for its timing. -/
def Timely (On : Instant → Instant → Prop) (l : Loop σ) (now : Instant) : Prop :=
  match l.stage with
  | .takes _ | .judges _ _ => On l.scene.clock.now now
  | .waits _ _ wake _ => wake ≤ now → On wake now
  | .over _ => True

/-- A job that a piece of its call has brought to other work, with the loop. -/
inductive Landed (p : Plan σ) (requests : List Request) (index : Nat) (request : Request)
    (calls : Nat) : Work → Stage → List Outcome → Prop where
  | doing {work : Work} {stage : Stage} {pending : List Outcome}
      (hdoing : Doing p requests index request calls work stage pending) :
      Landed p requests index request calls work stage pending
  | fails (f : Failure) : Landed p requests index request calls (.fails f) (.over (some f)) []

/-- What a piece of a call comes to, and the loop with it. -/
theorem exists_landed {piece : Answer Failure Call.Progress × Scene σ}
    (hreaches : Loop.Reaches p requests On scene (l.goOn index piece))
    (hcalls : calls = index + 1) (request : Request) :
    ∃ l' pending, Loop.Reaches p requests On scene l' ∧ l'.scene = piece.2 ∧
      l'.outcomes = l.outcomes ++ pending ∧
      (∀ i call wake wait, l'.stage = .waits i call wake wait →
        piece.1 = .ok (.waits call wake wait)) ∧
      Landed p requests index request calls (.ofProgress piece.1) l'.stage pending := by
  obtain ⟨progress, after⟩ := piece
  have hjudges {answer : Answer Failure Response}
      (hstage : (l.goOn index (progress, after)).stage = .judges index answer) :
      Loop.Reaches p requests On scene
        ((l.goOn index (progress, after)).judged index (p.judge index answer after)) :=
    hreaches.tail (.judges hstage)
  rcases progress with (f | crash) | ⟨call, wake, wait⟩ | response
  · exact ⟨_, [], hreaches, rfl, (List.append_nil _).symm, by simp [Loop.goOn, Stage.ofProgress],
      .doing (.handles hcalls)⟩
  · exact ⟨_, [], hjudges rfl, rfl, (List.append_nil _).symm, by simp [Loop.judged, Plan.judge],
      .fails _⟩
  · exact ⟨_, [], hreaches, rfl, (List.append_nil _).symm, by simp [Loop.goOn, Stage.ofProgress],
      .doing (.calls hcalls)⟩
  · exact ⟨_, [⟨index, response⟩], hjudges rfl, rfl, rfl, by simp [Loop.judged, Plan.judge],
      .doing (.answers hcalls)⟩

/-! ## The batch and the loop side by side -/

/-- The end of the results that the reader was told of, if it was. -/
def ending? (h : List Deed) : Option (Option Failure) :=
  h.findSome? fun
    | .reads (.ok none) => some none
    | .reads (.error f) => some (some f)
    | _ => none

theorem ending?_eq_none : ending? h = none ↔ returned h = false := by
  rw [ending?, List.findSome?_eq_none_iff, returned, List.any_eq_false]
  refine forall₂_congr fun e _ => ?_
  unfold Deed.isEnd
  split <;> simp

theorem exists_ending (hreturned : returned h) : ∃ failure, ending? h = some failure := by
  refine Option.ne_none_iff_exists'.1 fun hnone => ?_
  simp [ending?_eq_none.1 hnone] at hreturned

theorem Deed.Works.taken (he : e.Works) : Session.taken [e] = [] := by
  cases e <;> first | rfl | exact he.elim

theorem Deed.Works.ending? (he : e.Works) : Session.ending? [e] = none := by
  cases e <;> first | rfl | exact he.elim

/-- What somebody who collects the results gives back. -/
def result? (h : List Deed) : Option (Except Failure (List Response)) :=
  (ending? h).map fun failure =>
    collected ((taken h).map Except.ok ++ failure.toList.map Except.error)

/-- After a history, the batch and the loop have come to a state each. -/
structure Solo (p : Plan σ) (requests : List Request) (On : Instant → Instant → Prop)
    (scene : Scene σ) (h : List Deed) (s : State σ) (l : Loop σ) : Prop where
  reaches : Loop.Reaches p requests On scene l
  lags : l.scene.Lags s.scene
  timely : Timely On l s.scene.clock.now
  canceled : s.canceled = false
  phase : ∃ rest, l.outcomes = taken h ++ rest ∧ Phase p requests l.stage rest s
  /-- The reader is still to be told of the failure for which the outlet was canceled. -/
  cause : ∀ f, l.stage = .over (some f) → s.outlet.canceled → ending? h = none →
    s.outlet.cause = some f
  /-- The reader was told of the end of the loop. -/
  told : ∀ failure, ending? h = some failure →
    l.stage = .over failure ∧ (failure.isSome → s.outlet.canceled)
  /-- The loop does not end before the reader was told that there is no more. -/
  untold : l.stage = .over none → ending? h ≠ none

/-- There is one job, and nothing has gone wrong. Production has not got further than to the next
request, and the reader was not told of an end. -/
structure Busy (p : Plan σ) (requests : List Request) (h : List Deed) (s : State σ) (j : Job) :
    Prop where
  jobs : s.jobs = [j]
  production : Ahead p requests (j.index + 1) s.production
  clear : Clear s
  canceled : s.canceled = false
  ended : ending? h = none

theorem Clear.open (hclear : Clear s) : s.outlet.canceled = false :=
  (Bool.or_eq_false_iff.1 hclear.outlet).1

theorem Advance.shut (ha : Advance p requests s s') :
    s'.outlet.canceled = s.outlet.canceled ∧ s'.outlet.cause = s.outlet.cause ∧
      s'.canceled = s.canceled := by
  cases ha with
  | beside hb | holds hb | ends hb => exact ⟨hb.shut, hb.cause, hb.canceled⟩
  | adds _ hs' =>
    subst hs'
    exact ⟨rfl, rfl, rfl⟩

namespace Solo

theorem start (hrefl : ∀ t, On t t) :
    Solo p requests On scene [] (p.start scene false) { scene } where
  reaches := .refl
  lags := .refl _
  timely := hrefl _
  canceled := rfl
  phase := ⟨[], rfl, .idle (s := p.start scene false) rfl .checks rfl ⟨rfl, rfl, rfl⟩⟩
  cause := nofun
  told := nofun
  untold := nofun

/-- Production takes a step, and adds no job after the end of the loop. -/
theorem produce (hs : Solo p requests On scene h s l) (hproducer : p.producer = .ofList requests)
    (hworkers : p.batch.workers = 1)
    (hadds : ∀ f, l.stage = .over (some f) → ∀ i request, s.production ≠ .adds i request)
    (hstep : Batch.produce p s = some s') : Solo p requests On scene h s' l := by
  obtain ⟨hlags, hclock⟩ := lags_produce hproducer hstep
  obtain ⟨hshut, hcause, hcanceled⟩ := (Advance.of_produce hproducer hs.canceled hstep).shut
  obtain ⟨rest, hrest, hphase⟩ := hs.phase
  exact {
    reaches := hs.reaches
    lags := hs.lags.trans hlags
    timely := by rw [hclock]; exact hs.timely
    canceled := hcanceled.trans hs.canceled
    phase := ⟨rest, hrest, hphase.produce hproducer hworkers hs.canceled hadds hstep⟩
    cause := by rw [hshut, hcause]; exact hs.cause
    told := by rw [hshut]; exact hs.told
    untold := hs.untold }

/-- The reader was not told of an end before there was one. -/
theorem unended (hs : Solo p requests On scene h s l)
    (hstage : ∀ failure, l.stage ≠ .over failure) : ending? h = none := by
  cases hended : ending? h with
  | none => rfl
  | some failure => exact absurd (hs.told failure hended).1 (hstage failure)

/-- Something that happens before the end of the results, while nobody has canceled the outlet. -/
theorem of_open (hended : ending? h = none) (hopen : s.outlet.canceled = false)
    (hreaches : Loop.Reaches p requests On scene l) (hlags : l.scene.Lags s.scene)
    (htimely : Timely On l s.scene.clock.now) (hcanceled : s.canceled = false)
    (hphase : ∃ rest, l.outcomes = taken h ++ rest ∧ Phase p requests l.stage rest s)
    (hstage : l.stage ≠ .over none) : Solo p requests On scene h s l where
  reaches := hreaches
  lags := hlags
  timely := htimely
  canceled := hcanceled
  phase := hphase
  cause f _ hshut := by simp [hopen] at hshut
  told failure htold := by simp [hended] at htold
  untold hover := absurd hover hstage

/-- The only job and the loop have come to other work. -/
theorem landed (hb : Busy p requests h s j)
    (hlanded : Landed p requests j.index j.request calls work l.stage pending)
    (hreaches : Loop.Reaches p requests On scene l) {scene' : Scene σ}
    (hlags : l.scene.Lags scene') (htimely : Timely On l scene'.clock.now)
    (hrest : l.outcomes = taken h ++ (s.outlet.buffer ++ pending)) :
    Solo p requests On scene h ({ s with scene := scene', calls }.setWork j.index work) l := by
  have hjobs : ({ s with scene := scene', calls }.setWork j.index work).jobs = [{ j with work }] :=
    jobs_setWork hb.jobs
  have hclear := hb.clear
  refine of_open hb.ended hclear.open hreaches hlags htimely hb.canceled ⟨_, hrest, ?_⟩ ?_
  · generalize l.stage = stage at hlanded ⊢
    cases hlanded with
    | doing hdoing =>
      exact .busy hjobs hb.production ⟨hclear.failed, hclear.stopped, hclear.outlet⟩ hdoing
    | fails f =>
      refine .doomed (.stays hjobs ?_ (.inl rfl)) fun _ =>
        ⟨List.append_nil _, _, hjobs, .inl ⟨rfl, hclear.failed⟩⟩
      intro i request hadds
      have hproduction := hb.production
      rw [show s.production = .adds i request from hadds] at hproduction
      cases hproduction
  · generalize l.stage = stage at hlanded ⊢
    cases hlanded with
    | doing hdoing => exact hdoing.stage_ne_over
    | fails => nofun

/-- A piece of a call, run in a scene that differs from the batch's by traces. -/
theorem land (hb : Busy p requests h s j) (hrefl : ∀ t, On t t)
    (hrest : l.outcomes = taken h ++ s.outlet.buffer) (hcalls : calls = j.index + 1)
    {traced : Scene σ} (hlags : l.scene.Lags traced) {act : Act σ Call.Progress}
    (hahead : act.Yields (fun _ => True) (Call.Progress.Ahead traced.clock.now))
    (hreaches : Loop.Reaches p requests On scene
      (l.goOn j.index ((l.scene.later traced.clock.now).perform act))) :
    ∃ l', Solo p requests On scene h
      ({ s with scene := (traced.perform act).2, calls }.setWork j.index
        (.ofProgress (traced.perform act).1)) l' := by
  obtain ⟨l', pending, hreaches', hscene', houtcomes', hwaits, hlanded⟩ :=
    exists_landed hreaches hcalls j.request
  obtain ⟨hanswer, hlags'⟩ := hlags.perform act
  rw [← hscene'] at hlags'
  rw [hanswer] at hlanded hwaits
  have hnow : l'.scene.clock.now = traced.clock.now := by rw [hscene']; rfl
  refine ⟨l', landed hb hlanded hreaches' hlags' ?_ ?_⟩
  · unfold Timely
    split
    · exact hnow ▸ hrefl _
    · exact hnow ▸ hrefl _
    · next hstage =>
      intro hwake
      have hle := Scene.perform_value hahead (Prod.ext (hwaits _ _ _ _ hstage) rfl)
      exact Int.le_antisymm hwake hle ▸ hrefl _
    · trivial
  · rw [houtcomes', hrest, List.append_assoc]

/-- The job begins its call as the loop does, after a trace perhaps. -/
theorem begin (hs : Solo p requests On scene h s l) (hb : Busy p requests h s j)
    (hrefl : ∀ t, On t t) {given : Request} (hrequest : requests[j.index]? = some given)
    (hconfigured : j.request = given.configure p.settings.headers) (hcalls : s.calls = j.index)
    (hstage : l.stage = .takes j.index) (hrest : l.outcomes = taken h ++ s.outlet.buffer)
    (hwork : j.work = .begins) (hstep : Batch.step p s j = some s') :
    ∃ l', Solo p requests On scene h s' l' := by
  have htimely : On l.scene.clock.now s.scene.clock.now := by
    have := hs.timely
    rwa [Timely, hstage] at this
  simp only [Batch.step, hwork, State.act_eq, Option.some.injEq] at hstep
  subst hstep
  obtain ⟨traced, htraced, hlags', hclock⟩ := s.scene.perform_onlyIf_record
    (p.batch.debug && p.batch.verbose) (e := .traces
      { text := ">>>" ++ " " ++ j.request.method ++ " " ++ j.request.target ++ ""
        index := some j.index
        elapsed := none }) rfl
  have hbegin : s.scene.perform (j.begin p s) = traced.perform
      (p.batch.client.begin (s.calls + 1) j.request s.scene.clock s.canceled) := by
    unfold Job.begin Job.say
    rw [Scene.perform_bind _ _ fun _ => p.batch.client.begin_ahead _ _ _ _, htraced]
  have hlags := hs.lags.trans hlags'
  rw [hbegin]
  refine land hb hrefl hrest (by rw [hcalls]) hlags ?_ ?_
  · rw [hclock]
    exact p.batch.client.begin_ahead _ _ _ _
  · have htakes : Loop.Step p requests On l (l.goOn j.index ((l.scene.later
        traced.clock.now).perform (p.batch.client.begin (j.index + 1)
          (given.configure p.settings.headers) (l.scene.later traced.clock.now).clock false))) :=
      .takes hstage hrequest (hclock ▸ htimely)
    rw [hlags.clock_eq, ← hconfigured] at htakes
    rw [hb.canceled, hcalls, ← hclock]
    exact hs.reaches.tail htakes

/-- The call goes on, as that of the loop does. -/
theorem resume {call : Call} {wake : Instant} {wait : Call.Wait}
    (hs : Solo p requests On scene h s l) (hb : Busy p requests h s j) (hrefl : ∀ t, On t t)
    (hcalls : s.calls = j.index + 1) (hstage : l.stage = .waits j.index call wake wait)
    (hrest : l.outcomes = taken h ++ s.outlet.buffer) (hwork : j.work = .calls call wake wait)
    (hstep : Batch.step p s j = some s') : ∃ l', Solo p requests On scene h s' l' := by
  have htimely : wake ≤ s.scene.clock.now → On wake s.scene.clock.now := by
    have := hs.timely
    rwa [Timely, hstage] at this
  simp only [Batch.step, hwork, State.act_eq] at hstep
  split at hstep
  · next hwake =>
    cases hstep
    simp only [hb.canceled, Bool.false_or, decide_eq_true_eq] at hwake
    have hahead : (resumed p s call wait).Yields (fun _ => True)
        (Call.Progress.Ahead s.scene.clock.now) := p.batch.client.resume_ahead _ _ _ _
    refine land hb hrefl hrest hcalls hs.lags hahead ?_
    have hwakes : Loop.Step p requests On l (l.goOn j.index ((l.scene.later
        s.scene.clock.now).perform (p.batch.client.resume call wait
          (l.scene.later s.scene.clock.now).clock false))) :=
      .wakes hstage (htimely hwake)
    rw [hs.lags.clock_eq, ← hb.canceled] at hwakes
    exact hs.reaches.tail hwakes
  · cases hstep

/-- The handler is asked about the failure of the call. -/
theorem handle (hs : Solo p requests On scene h s l) (hb : Busy p requests h s j)
    (hcalls : s.calls = j.index + 1) (hstage : l.stage = .judges j.index (.error (.error f)))
    (hrest : l.outcomes = taken h ++ s.outlet.buffer) (hwork : j.work = .handles f)
    (hstep : Batch.step p s j = some s') : ∃ l', Solo p requests On scene h s' l' := by
  have hlags := hs.lags
  have htimely : On l.scene.clock.now s.scene.clock.now := by
    have := hs.timely
    rwa [Timely, hstage] at this
  have hjudges := hs.reaches.tail (.judges hstage)
  have hnothing : l.outcomes = taken h ++ (s.outlet.buffer ++ []) :=
    hrest.trans (by rw [List.append_nil])
  unfold Plan.judge at hjudges
  simp only [Batch.step, hwork] at hstep
  cases hhandler : p.handler with
  | none =>
    simp only [hhandler, Option.some.injEq] at hstep hjudges
    subst hstep
    exact ⟨_, landed hb (.fails _) hjudges hlags trivial hnothing⟩
  | some handler =>
    simp only [hhandler, State.act_eq, Option.some.injEq] at hstep hjudges
    subst hstep
    have hsilent : (do Act.record (.handles f); Act.ask id (handler f) : Act σ _).Yields
        (·.sent? = none) fun _ => True :=
      (Act.yields_record (P := (·.sent? = none)) rfl).bind fun _ _ => Act.yields_ask _ _
    obtain ⟨hanswer, hlags'⟩ := hlags.perform_silent hsilent
    obtain ⟨answer, asked, hasked, hclock⟩ := l.scene.exists_perform
      (do Act.record (.handles f); Act.ask id (handler f) : Act σ (Option Response))
    rw [hasked] at hanswer hlags'
    rw [← hanswer]
    simp only [hasked] at hjudges
    have htimely' : On asked.clock.now s.scene.clock.now := hclock ▸ htimely
    rcases answer with (g | crash) | _ | response
    · exact ⟨_, landed hb (.fails _) hjudges hlags' trivial hnothing⟩
    · exact ⟨_, landed hb (.fails _) hjudges hlags' trivial hnothing⟩
    · exact ⟨_, landed hb (.doing (.leaves hcalls)) hjudges hlags' htimely'
        (by simpa [Loop.judged] using hrest)⟩
    · exact ⟨_, landed hb (.doing (.answers hcalls)) hjudges hlags' htimely'
        (by rw [← List.append_assoc, ← hrest]; rfl)⟩

/-- The response is traced perhaps. -/
theorem answer {response : Response} (hs : Solo p requests On scene h s l)
    (hb : Busy p requests h s j) (hcalls : s.calls = j.index + 1)
    (hstage : l.stage = .takes (j.index + 1))
    (hrest : l.outcomes = taken h ++ (s.outlet.buffer ++ [⟨j.index, response⟩]))
    (hwork : j.work = .answers response) (hstep : Batch.step p s j = some s') :
    Solo p requests On scene h s' l := by
  simp only [Batch.step, hwork, State.act_eq, Option.some.injEq] at hstep
  subst hstep
  unfold Job.say
  obtain ⟨traced, htraced, hlags, hclock⟩ := s.scene.perform_onlyIf_record p.batch.debug
    (e := .traces
      { text := "<<<" ++ " " ++ j.request.method ++ " " ++ j.request.target
          ++ (": " ++ Status.print response.status)
        index := some j.index
        elapsed := some (s.scene.clock.now.since j.start) }) rfl
  rw [htraced]
  exact landed hb (hstage ▸ .doing (.delivers hcalls)) hs.reaches (hs.lags.trans hlags)
    (hclock ▸ hs.timely) hrest

/-- The response is handed to the outlet, if there is room. -/
theorem deliver {response : Response} (hs : Solo p requests On scene h s l)
    (hb : Busy p requests h s j) (hcalls : s.calls = j.index + 1)
    (hstage : l.stage = .takes (j.index + 1))
    (hrest : l.outcomes = taken h ++ (s.outlet.buffer ++ [⟨j.index, response⟩]))
    (hwork : j.work = .delivers response) (hstep : Batch.step p s j = some s') :
    Solo p requests On scene h s' l := by
  have hclear := hb.clear
  by_cases hroom : s.outlet.buffer.length < s.outlet.capacity
  · simp only [Batch.step, hwork, Outlet.write, hclear.outlet, hroom, if_true, if_false,
      Bool.false_eq_true, Option.some.injEq] at hstep
    subst hstep
    refine of_open hb.ended hclear.open hs.reaches hs.lags hs.timely hb.canceled
      ⟨_, hrest, ?_⟩ (by simp [hstage])
    have hjobs : ({ s with outlet := { s.outlet with
        buffer := s.outlet.buffer ++ [Outcome.mk j.index response] } }.setWork j.index
          .leaves).jobs = [{ j with work := .leaves }] := jobs_setWork hb.jobs
    have hbusy := Phase.busy hjobs hb.production
      ⟨hclear.failed, hclear.stopped, hclear.outlet⟩ (.leaves hcalls)
    rw [List.append_nil] at hbusy
    rw [hstage]
    exact hbusy
  · simp [Batch.step, hwork, Outlet.write, hclear.outlet, hroom] at hstep

/-- The job leaves, and its worker is free. -/
theorem clockOut (hs : Solo p requests On scene h s l) (hb : Busy p requests h s j)
    (hcalls : s.calls = j.index + 1) (hstage : l.stage = .takes (j.index + 1))
    (hrest : l.outcomes = taken h ++ s.outlet.buffer) (hwork : j.work = .leaves)
    (hstep : Batch.step p s j = some s') : Solo p requests On scene h s' l := by
  have hclear := hb.clear
  simp only [Batch.step, hwork, Option.some.injEq] at hstep
  subst hstep
  refine of_open hb.ended hclear.open hs.reaches hs.lags hs.timely hb.canceled ⟨_, hrest, ?_⟩
    (by simp [hstage])
  rw [hstage]
  exact .idle (jobs_dropJob hb.jobs) hb.production hcalls
    ⟨hclear.failed, hclear.stopped, hclear.outlet⟩

/-- The only job takes a step, before anything has gone wrong. -/
theorem step_busy (hs : Solo p requests On scene h s l) (hb : Busy p requests h s j)
    (hrefl : ∀ t, On t t)
    (hdoing : Doing p requests j.index j.request s.calls j.work l.stage pending)
    (hrest : l.outcomes = taken h ++ (s.outlet.buffer ++ pending))
    (hstep : Batch.step p s j = some s') : ∃ l', Solo p requests On scene h s' l' := by
  generalize hwork : j.work = work at hdoing
  generalize hstage : l.stage = stage at hdoing
  cases hdoing with
  | begins hrequest hconfigured hcalls =>
    rw [List.append_nil] at hrest
    exact hs.begin hb hrefl hrequest hconfigured hcalls hstage hrest hwork hstep
  | calls hcalls =>
    rw [List.append_nil] at hrest
    exact hs.resume hb hrefl hcalls hstage hrest hwork hstep
  | handles hcalls =>
    rw [List.append_nil] at hrest
    exact hs.handle hb hcalls hstage hrest hwork hstep
  | answers hcalls => exact ⟨l, hs.answer hb hcalls hstage hrest hwork hstep⟩
  | delivers hcalls => exact ⟨l, hs.deliver hb hcalls hstage hrest hwork hstep⟩
  | leaves hcalls =>
    rw [List.append_nil] at hrest
    exact ⟨l, hs.clockOut hb hcalls hstage hrest hwork hstep⟩

/-- A job that has failed for good takes a step. -/
theorem step_doomed (hs : Solo p requests On scene h s l) (hstage : l.stage = .over (some f))
    (hdoomed : Doomed f s) (hrest : l.outcomes = taken h ++ rest)
    (hopen : s.outlet.canceled = false → rest = s.outlet.buffer ∧ ∃ j, s.jobs = [j] ∧
      (j.work = .fails f ∧ s.failed = false ∨ j.work = .reports f))
    (hj : s.job? j.index = some j) (hstep : Batch.step p s j = some s') :
    Solo p requests On scene h s' l := by
  have hdoomed' := hdoomed.step hj hstep
  obtain ⟨hwhat, hjobs⟩ := DoomedStep.of_step hdoomed hj hstep
  have hbefore (hshut : s.outlet.canceled = false) : rest = s.outlet.buffer ∧
      (j.work = .fails f ∧ s.failed = false ∨ j.work = .reports f) := by
    obtain ⟨hbuffer, k, hk, hwork⟩ := hopen hshut
    exact ⟨hbuffer, eq_of_job? hk hj ▸ hwork⟩
  have hcause := hs.cause f hstage
  have hsolo {s' : State σ} (hdoomed' : Doomed f s') (hlags : s.scene.Lags s'.scene)
      (hcanceled : s'.canceled = false)
      (hshut : s.outlet.canceled → s'.outlet.canceled)
      (hcause' : s'.outlet.canceled → ending? h = none → s'.outlet.cause = some f)
      (hopen' : s'.outlet.canceled = false → rest = s'.outlet.buffer ∧ ∃ j, s'.jobs = [j] ∧
        (j.work = .fails f ∧ s'.failed = false ∨ j.work = .reports f)) :
      Solo p requests On scene h s' l := {
    reaches := hs.reaches
    lags := hs.lags.trans hlags
    timely := by simp only [Timely, hstage]
    canceled := hcanceled
    phase := ⟨rest, hrest, hstage ▸ .doomed hdoomed' hopen'⟩
    cause := fun g hg hshut' => by
      cases hstage.symm.trans hg
      exact hcause' hshut'
    told := fun failure htold => ⟨(hs.told failure htold).1, fun hf =>
      hshut ((hs.told failure htold).2 hf)⟩
    untold := hs.untold }
  cases hwhat with
  | reports hwork hfirst =>
    exact hsolo hdoomed' (.refl _) hs.canceled id hcause fun hshut =>
      ⟨(hbefore hshut).1, _, jobs_setWork hjobs, .inr rfl⟩
  | stops hwork hfailed =>
    refine hsolo hdoomed' (.refl _) hs.canceled id hcause fun hshut => ?_
    rcases (hbefore hshut).2 with ⟨-, hfirst⟩ | hreports
    · simp [hfirst] at hfailed
    · cases hwork.symm.trans hreports
  | cancels scene hscene hwork =>
    refine hsolo hdoomed' hscene.1 hs.canceled (fun _ => by simp [State.setWork]) ?_
      (fun hshut => by simp [State.setWork] at hshut)
    intro _ hended
    change (s.outlet.cancel f).cause = some f
    unfold Outlet.cancel
    split
    · next hshut => exact hcause hshut hended
    · rfl
  | leaves hwork =>
    refine hsolo hdoomed' (.refl _) hs.canceled id hcause fun hshut => ?_
    rcases (hbefore hshut).2 with ⟨hfails, -⟩ | hreports
    · cases hwork.symm.trans hfails
    · cases hwork.symm.trans hreports
  | ends hwork =>
    refine hsolo hdoomed' (.refl _) hs.canceled id hcause fun hshut => ?_
    rcases (hbefore hshut).2 with ⟨hfails, -⟩ | hreports
    · cases hwork.symm.trans hfails
    · cases hwork.symm.trans hreports

/-- A job takes a step. -/
theorem step (hs : Solo p requests On scene h s l) (hrefl : ∀ t, On t t)
    (hj : s.job? j.index = some j) (hstep : Batch.step p s j = some s') :
    ∃ l', Solo p requests On scene h s' l' := by
  obtain ⟨rest, hrest, hphase⟩ := hs.phase
  have hmem := State.mem_of_job? hj
  generalize hstage : l.stage = stage at hphase
  cases hphase with
  | idle hjobs | holds hjobs | exhausted hjobs | done hjobs =>
    rw [hjobs] at hmem
    cases hmem
  | busy hjobs hproduction hclear hdoing =>
    obtain rfl := eq_of_job? hjobs hj
    have hended : ending? h = none := hs.unended fun _ => hstage ▸ hdoing.stage_ne_over
    exact hs.step_busy ⟨hjobs, hproduction, hclear, hs.canceled, hended⟩ hrefl (hstage ▸ hdoing)
      hrest hstep
  | doomed hdoomed hopen => exact ⟨l, hs.step_doomed hstage hdoomed hrest hopen hj hstep⟩

/-- What is left to the reader after it has taken a result. -/
theorem exists_left {o : Outcome} {later : List Outcome} (hphase : Phase p requests stage rest s)
    (hopen : s.outlet.canceled = false) (hstage : stage ≠ .over none)
    (hbuffer : s.outlet.buffer = o :: later) {s' : State σ}
    (hs' : s' = { s with outlet := { s.outlet with buffer := later } }) :
    ∃ rest', rest = o :: rest' ∧ Phase p requests stage rest' s' := by
  have hclear' (hclear : Clear s) : Clear s' :=
    hs' ▸ ⟨hclear.failed, hclear.stopped, hclear.outlet⟩
  have hlater : s'.outlet.buffer = later := by rw [hs']
  have hkept : s'.jobs = s.jobs ∧ s'.production = s.production ∧ s'.calls = s.calls := by
    rw [hs']
    exact ⟨rfl, rfl, rfl⟩
  obtain ⟨hjobs', hproduction', hcalls'⟩ := hkept
  rw [← hlater] at hbuffer
  cases hphase with
  | idle hjobs hproduction hcalls hclear =>
    exact ⟨_, hbuffer, .idle (hjobs'.trans hjobs) (hproduction' ▸ hproduction)
      (hcalls'.trans hcalls) (hclear' hclear)⟩
  | holds hjobs hrequest hproduction hcalls hclear =>
    exact ⟨_, hbuffer, .holds (hjobs'.trans hjobs) hrequest (hproduction'.trans hproduction)
      (hcalls'.trans hcalls) (hclear' hclear)⟩
  | exhausted hjobs hproduction hrequest hclear =>
    exact ⟨_, hbuffer, .exhausted (hjobs'.trans hjobs) (hproduction'.trans hproduction) hrequest
      (hclear' hclear)⟩
  | @busy _ _ _ pending hjobs hproduction hclear hdoing =>
    exact ⟨s'.outlet.buffer ++ pending, by rw [hbuffer, List.cons_append],
      .busy (hjobs'.trans hjobs) (hproduction' ▸ hproduction) (hclear' hclear)
        (hcalls' ▸ hdoing)⟩
  | doomed hdoomed hwhile =>
    obtain ⟨rfl, hwork⟩ := hwhile hopen
    subst hs'
    exact ⟨later, hbuffer, .doomed (hdoomed.congr rfl rfl rfl) fun _ => ⟨rfl, hwork⟩⟩
  | done => exact absurd rfl hstage

/-- The reader takes a result. -/
theorem take {o : Outcome} {later : List Outcome} (hs : Solo p requests On scene h s l)
    (hended : ending? h = none) (hopen : s.outlet.canceled = false)
    (hbuffer : s.outlet.buffer = o :: later) :
    Solo p requests On scene (h ++ [.reads (.ok (some o))])
      { s with outlet := { s.outlet with buffer := later } } l := by
  obtain ⟨rest, hrest, hphase⟩ := hs.phase
  have htaken : taken (h ++ [.reads (.ok (some o))]) = taken h ++ [o] := taken_append _ _
  have hended' : ending? (h ++ [.reads (.ok (some o))]) = none := by
    simpa [ending?, List.findSome?_append] using hended
  obtain ⟨rest', rfl, hphase'⟩ :=
    exists_left hphase hopen (fun hover => hs.untold hover hended) hbuffer rfl
  refine of_open hended' hopen hs.reaches hs.lags hs.timely hs.canceled
    ⟨rest', by rw [htaken, hrest, List.append_assoc]; rfl, hphase'⟩ fun hover => ?_
  exact hs.untold hover hended

/-- The reader is told why the outlet was canceled. -/
theorem fail (hs : Solo p requests On scene h s l) (hended : ending? h = none)
    (hshut : s.outlet.canceled) : ∃ f, s.outlet.cause = some f ∧
      Solo p requests On scene (h ++ [.reads (.error f)])
        { s with outlet := { s.outlet with cause := none } } l := by
  obtain ⟨rest, hrest, hphase⟩ := hs.phase
  have hclear (hclear : Clear s) : False := by simp [hclear.open] at hshut
  obtain ⟨f, hstage, hdoomed⟩ : ∃ f, l.stage = .over (some f) ∧ Doomed f s := by
    have huntold := hs.untold
    generalize l.stage = stage at hphase huntold
    cases hphase with
    | idle _ _ _ h' | holds _ _ _ _ h' | exhausted _ _ _ h' | busy _ _ h' => exact (hclear h').elim
    | doomed hdoomed => exact ⟨_, rfl, hdoomed⟩
    | done => exact absurd hended (huntold rfl)
  have htaken : taken (h ++ [.reads (.error f)]) = taken h := by simp [taken]
  have hended' : ending? (h ++ [.reads (.error f)]) = some (some f) := by
    simp only [ending?, List.findSome?_append] at hended ⊢
    rw [hended]
    rfl
  refine ⟨f, hs.cause f hstage hshut hended, ?_⟩
  exact {
    reaches := hs.reaches
    lags := hs.lags
    timely := hs.timely
    canceled := hs.canceled
    phase := ⟨rest, htaken ▸ hrest, hstage ▸ .doomed (hdoomed.congr rfl rfl rfl) fun hopen =>
      by simp [hshut] at hopen⟩
    cause := fun g _ _ hnone => by simp [hended'] at hnone
    told := fun failure htold => by
      obtain rfl := Option.some.inj (hended'.symm.trans htold)
      exact ⟨hstage, fun _ => hshut⟩
    untold := fun hover => by simp [hstage] at hover }

/-- The reader is told that there is no more, which ends the loop. -/
theorem finish (hs : Solo p requests On scene h s l) (hended : ending? h = none)
    (hopen : s.outlet.canceled = false) (hbuffer : s.outlet.buffer = []) (hjobs : s.jobs = [])
    (hproduction : s.production = .over) :
    ∃ l', Solo p requests On scene (h ++ [.reads (.ok none)]) s l' := by
  obtain ⟨rest, hrest, hphase⟩ := hs.phase
  obtain ⟨index, hstage, hrequest, hclear, rfl⟩ : ∃ index, l.stage = .takes index ∧
      requests[index]? = none ∧ Clear s ∧ rest = [] := by
    have huntold := hs.untold
    generalize l.stage = stage at hphase huntold
    cases hphase with
    | idle _ hahead =>
      rw [hproduction] at hahead
      cases hahead
    | holds _ _ hadds => cases hproduction.symm.trans hadds
    | exhausted _ _ hrequest hclear => exact ⟨_, rfl, hrequest, hclear, hbuffer⟩
    | busy hjobs' => cases hjobs.symm.trans hjobs'
    | doomed _ hwhile =>
      obtain ⟨-, j, hj, -⟩ := hwhile hopen
      cases hjobs.symm.trans hj
    | done => exact absurd hended (huntold rfl)
  have htaken : taken (h ++ [.reads (.ok none)]) = taken h := by simp [taken]
  have hended' : ending? (h ++ [.reads (.ok none)]) = some none := by
    simp only [ending?, List.findSome?_append] at hended ⊢
    rw [hended]
    rfl
  exact ⟨{ l with stage := .over none }, {
    reaches := hs.reaches.tail (.ends hstage hrequest)
    lags := hs.lags
    timely := trivial
    canceled := hs.canceled
    phase := ⟨[], htaken ▸ hrest, .done hjobs hproduction hclear.failed⟩
    cause := fun _ hcause => by cases hcause
    told := fun failure htold => by
      obtain rfl := Option.some.inj (hended'.symm.trans htold)
      exact ⟨rfl, fun hfailure => by cases hfailure⟩
    untold := fun _ hnone => by simp [hended'] at hnone }⟩

/-- The reader leaves after the end. -/
theorem leave (hs : Solo p requests On scene h s l) (hended : ending? h ≠ none) :
    Solo p requests On scene h { s with outlet := s.outlet.close } l := by
  obtain ⟨failure, htold⟩ := Option.ne_none_iff_exists'.1 hended
  obtain ⟨rest, hrest, hphase⟩ := hs.phase
  obtain ⟨hstage, hshut⟩ := hs.told failure htold
  have hclosed : s.outlet.close.canceled = true := by simp [Outlet.close]
  refine {
    reaches := hs.reaches
    lags := hs.lags
    timely := hs.timely
    canceled := hs.canceled
    phase := ⟨rest, hrest, ?_⟩
    cause := fun _ _ _ hnone => absurd hnone hended
    told := fun failure htold => ⟨(hs.told failure htold).1, fun _ => hclosed⟩
    untold := hs.untold }
  rw [hstage] at hphase ⊢
  generalize hover : Stage.over failure = stage at hphase
  cases hphase with
  | idle | holds | exhausted => cases hover
  | busy _ _ _ hdoing => exact absurd hover.symm hdoing.stage_ne_over
  | doomed hdoomed =>
    exact .doomed (hdoomed.congr rfl rfl rfl) fun hopen => by simp [hclosed] at hopen
  | done hjobs hproduction hfailed => exact .done hjobs hproduction hfailed

/-- Time passes. -/
theorem pass (hs : Solo p requests On scene h s l) {t : Instant} (hle : s.scene.clock.now ≤ t)
    (htimely : Timely On l t) :
    Solo p requests On scene h { s with scene := s.scene.later t } l := by
  obtain ⟨rest, hrest, hphase⟩ := hs.phase
  exact { hs with
    lags := hs.lags.later hle, timely := htimely, phase := ⟨rest, hrest, hphase.setScene _⟩ }

/-- What nobody reads does not count. -/
theorem history (hs : Solo p requests On scene h s l) (htaken : taken [e] = [])
    (hended : ending? [e] = none) : Solo p requests On scene (h ++ [e]) s l := by
  have htaken' : taken (h ++ [e]) = taken h := by rw [taken_append, htaken, List.append_nil]
  have hended' : ending? (h ++ [e]) = ending? h := by
    have happend : ending? (h ++ [e]) = (ending? h).or (ending? [e]) := List.findSome?_append
    rw [happend, hended, Option.or_none]
  exact {
    reaches := hs.reaches
    lags := hs.lags
    timely := hs.timely
    canceled := hs.canceled
    phase := htaken' ▸ hs.phase
    cause := hended' ▸ hs.cause
    told := hended' ▸ hs.told
    untold := hended' ▸ hs.untold }

/-- Somebody does something in a session, other than to cancel the batch or to add a job after the
end of the loop. -/
theorem move (hs : Solo p requests On scene h s l) (hrefl : ∀ t, On t t)
    (hproducer : p.producer = .ofList requests) (hworkers : p.batch.workers = 1)
    (hending : Ending h s) (hmove : Move p s e s') (hreader : e.Collects h)
    (hcancels : e ≠ .cancels) (haccepts : ∀ f, l.stage = .over (some f) → ∀ i, e ≠ .accepts i)
    (hpasses : e = .passes →
      s.scene.clock.now ≤ s'.scene.clock.now → Timely On l s'.scene.clock.now) :
    ∃ l', Solo p requests On scene (h ++ [e]) s' l' := by
  cases hmove with
  | produces hstep =>
    have hworks := works_doneByProduction p s
    have hadds (f : Failure) (hover : l.stage = .over (some f)) (i : Nat) (request : Request)
        (hproduction : s.production = .adds i request) : False :=
      haccepts f hover i (by rw [doneByProduction, hproduction])
    exact ⟨l, (hs.produce hproducer hworkers hadds hstep).history hworks.taken hworks.ending?⟩
  | @advances _ j hj hstep =>
    have hworks := works_doneByJob s j
    obtain ⟨l', hs'⟩ := hs.step hrefl hj hstep
    exact ⟨l', hs'.history hworks.taken hworks.ending?⟩
  | reads _ hnext =>
    have hended : ending? h = none := ending?_eq_none.2 hreader
    cases hread : Outlet.Reading.of_next hnext with
    | fails hshut =>
      obtain ⟨f, hcause, hs'⟩ := hs.fail hended hshut
      rw [hcause]
      exact ⟨l, hs'⟩
    | gives hopen hbuffer => exact ⟨l, hs.take hended hopen hbuffer⟩
    | ends hopen hbuffer =>
      obtain ⟨-, hover, hjobs⟩ := hending.done_of_next hnext
      exact hs.finish hended hopen hbuffer hjobs hover
  | dismisses => exact hreader.elim
  | leaves =>
    have hended : ending? h ≠ none := fun hnone => by
      simp [Deed.Collects, ending?_eq_none.1 hnone] at hreader
    exact ⟨l, (hs.leave hended).history rfl rfl⟩
  | cancels => exact absurd rfl hcancels
  | passes hle => exact ⟨l, (hs.pass hle (hpasses rfl hle)).history rfl rfl⟩

end Solo

end Batch.Session

end Courier
