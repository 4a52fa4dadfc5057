import Courier.Proofs.Batch.Ledger
import Courier.Proofs.Call.Waits

/-!
# Batches come to their end

Until the results have ended, somebody can take a step, at once or when a call has slept long
enough (`Ledger.exists_turn`). And if the producer gives no request from an index on, the steps
are bounded : each of them makes `Collection.rank` smaller, which counts what production, the
jobs and the reader have still to do (`steps_add_rank_le`). So whatever the order of the steps, the
results end, unless nobody moves any more.
-/

namespace Courier.Batch

variable {σ : Type} {p : Plan σ} {h : List Happening} {e : Happening} {i n : Nat}
  {s s' : State σ} {c c' : Collection σ} {taken : List Outcome} {j : Job} {work : Work}

/-! ## Somebody can move -/

theorem isStep_shownByProduction (p : Plan σ) (s : State σ) : (shownByProduction p s).isStep := by
  unfold shownByProduction
  split <;> rfl

theorem isStep_shownByCall (i : Nat) (progress : Answer Failure Call.Progress) :
    (shownByCall i progress).isStep := by
  unfold shownByCall
  split <;> rfl

theorem isStep_shownByJob (p : Plan σ) (s : State σ) (j : Job) : (shownByJob p s j).isStep := by
  unfold shownByJob
  split
  · exact isStep_shownByCall _ _
  · exact isStep_shownByCall _ _
  · split <;> rfl
  · rfl

/-- A job can move, now or when its call has slept long enough, if the outlet has room. -/
theorem exists_step (hroom : s.outlet.buffer.length < s.outlet.capacity) (j : Job) :
    ∃ t, s.scene.clock.now ≤ t ∧ (step p { s with scene := s.scene.later t } j).isSome := by
  cases hwork : j.work with
  | calls call wake wait =>
    refine ⟨max s.scene.clock.now wake, Int.le_max_left _ _, ?_⟩
    have hwake : wake ≤ max s.scene.clock.now wake := Int.le_max_right _ _
    simp [step, hwork, hwake]
  | handles f =>
    refine ⟨s.scene.clock.now, Int.le_refl _, ?_⟩
    cases hhandler : p.handler <;> simp [step, hwork, hhandler]
  | delivers response =>
    refine ⟨s.scene.clock.now, Int.le_refl _, ?_⟩
    by_cases hrefuses : s.outlet.refuses <;> simp [step, hwork, Outlet.write, hrefuses, hroom]
  | fails f =>
    refine ⟨s.scene.clock.now, Int.le_refl _, ?_⟩
    cases s.failed <;> simp [step, hwork]
  | _ => exact ⟨s.scene.clock.now, Int.le_refl _, by simp [step, hwork]⟩

/-- Production can move while there are no jobs, unless it is over. -/
theorem isSome_produce (hjobs : s.jobs = []) (hworkers : 1 ≤ p.batch.workers)
    (hproduction : s.production ≠ .over) : (produce p s).isSome := by
  have hplaces : 0 < p.batch.places := Nat.lt_min.2 ⟨hworkers, by decide⟩
  unfold produce
  match hs : s.production with
  | .asks i =>
    simp only [State.act_eq, perform_record_ask]
    rcases (p.producer i s.scene.world).1 with (f | crash) | (_ | request) <;> rfl
  | .queues i request =>
    have hfree : s.isFree p := State.isFree_iff.2 (by simpa [hjobs] using hplaces)
    by_cases hstopped : s.stopped || s.canceled <;> simp [hstopped, hfree]
  | .drains => simp [hjobs]
  | .over => exact absurd hs hproduction
  | .checks _ | .offers _ _ | .claims _ _ | .adds _ _ => rfl

/-- Somebody can move : the reader, a job, now or when its call has slept long enough, or
production. -/
theorem exists_mover (hs : s.Distinct) (hcapacity : 0 < s.outlet.capacity)
    (hwriters : s.outlet.writers = s.jobs.length + s.production.writers)
    (hworkers : 1 ≤ p.batch.workers) :
    s.outlet.next.isSome ∨
      (∃ j t, s.job? j.index = some j ∧ s.scene.clock.now ≤ t ∧
        (step p { s with scene := s.scene.later t } j).isSome) ∨
      (produce p s).isSome := by
  by_cases hcanceled : s.outlet.canceled
  · exact .inl (by simp [Outlet.next, hcanceled])
  match hbuffer : s.outlet.buffer with
  | o :: rest => exact .inl (by simp [Outlet.next, hcanceled, hbuffer])
  | [] =>
  by_cases hjobs : s.jobs = []
  · by_cases hproduction : s.production = .over
    · rw [hproduction, hjobs] at hwriters
      exact .inl (by simp [Outlet.next, hcanceled, hbuffer, hwriters, Production.writers])
    · exact .inr (.inr (isSome_produce hjobs hworkers hproduction))
  · obtain ⟨j, hj⟩ := List.exists_mem_of_ne_nil _ hjobs
    have hroom : s.outlet.buffer.length < s.outlet.capacity := by rwa [hbuffer]
    obtain ⟨t, hle, hstep⟩ := exists_step (p := p) hroom j
    exact .inr (.inl ⟨j, t, State.job?_of_mem hs hj, hle, hstep⟩)

/-- Until the results have ended, somebody can take a step. -/
theorem Ledger.exists_turn (hl : Ledger p h c.state taken n) (hworkers : 1 ≤ p.batch.workers) :
    ∃ t, c.state.scene.clock.now ≤ t ∧ ∃ e c', Turn p (c.later t) e c' ∧ e.isStep := by
  rcases exists_mover hl.distinct hl.capacity hl.writers hworkers with
    hnext | ⟨j, t, hj, hle, hstep⟩ | hstep
  · obtain ⟨⟨answer, outlet⟩, hnext⟩ := Option.isSome_iff_exists.1 hnext
    exact ⟨_, Int.le_refl _, _, _, .reads hnext, rfl⟩
  · obtain ⟨s, hstep⟩ := Option.isSome_iff_exists.1 hstep
    exact ⟨t, hle, _, _, .advances hj hstep, isStep_shownByJob _ _ _⟩
  · obtain ⟨s, hstep⟩ := Option.isSome_iff_exists.1 hstep
    exact ⟨_, Int.le_refl _, _, _, .produces hstep, isStep_shownByProduction _ _⟩

/-! ## What is still to do -/

/-- The steps that a job still takes, at most. One of them may add to the outlet. -/
def Work.rank : Work → Nat
  | .begins => 2 * maxRetries + 11
  | .calls _ _ wait => wait.left + 8
  | .handles _ => 7
  | .answers _ => 6
  | .delivers _ => 5
  | .fails _ => 4
  | .reports _ => 3
  | .stops => 2
  | .leaves => 1

/-- The steps from one index of production to the next, with those of the job between. -/
def stepsPerJob : Nat := 2 * maxRetries + 18

/-- The steps that production and its jobs to come still take, if there is no request from `bound`
on. A request that finds no worker free waits for one, and does not do so again once one is. -/
def Production.rank (bound : Nat) (free : Bool) : Production → Nat
  | .checks i => stepsPerJob * (bound - i) + 4
  | .asks i => stepsPerJob * (bound - i) + 3
  | .offers i _ => stepsPerJob * (bound - (i + 1)) + Work.begins.rank + 9
  | .claims i _ => stepsPerJob * (bound - (i + 1)) + Work.begins.rank + if free then 6 else 8
  | .queues i _ => stepsPerJob * (bound - (i + 1)) + Work.begins.rank + 7
  | .adds i _ => stepsPerJob * (bound - (i + 1)) + Work.begins.rank + 5
  | .drains => 1
  | .over => 0

/-- A worker that becomes free is no more to do. -/
theorem Production.rank_le {bound : Nat} {free free' : Bool} (h : free → free')
    (production : Production) : production.rank bound free' ≤ production.rank bound free := by
  cases free with
  | false => cases free' <;> cases production <;> simp [rank]
  | true => exact h rfl ▸ Nat.le_refl _

theorem stepsPerJob_mul {bound : Nat} (hi : i < bound) :
    stepsPerJob * (bound - i) = stepsPerJob * (bound - (i + 1)) + stepsPerJob := by
  rw [← Nat.mul_succ]
  congr 1
  omega

/-- The steps that are still to be taken in a batch, with those of its reader. -/
def State.rank (s : State σ) (p : Plan σ) (bound : Nat) : Nat :=
  s.production.rank bound (s.isFree p) + s.effort Work.rank + s.outlet.buffer.length

/-- The steps that are still to be taken until the results have ended. -/
def Collection.rank (c : Collection σ) (p : Plan σ) (bound : Nat) : Nat :=
  c.state.rank p bound + if c.ending.isSome then 0 else 1

/-- How many steps somebody took. -/
def steps (h : List Happening) : Nat :=
  h.countP Happening.isStep

/-- The producer has no request from an index on. -/
def Plan.EndsAt (p : Plan σ) (bound : Nat) : Prop :=
  ∀ i world request, bound ≤ i → (p.producer i world).1 ≠ .ok (some request)

/-- What is kept in a batch besides the ledger : a call that pauses has a sending left, and a
request that waits for a worker is one of those that there may be. -/
structure Bounded (bound : Nat) (s : State σ) : Prop where
  distinct : s.Distinct
  sound : ∀ i call wake wait, s.workAt i = some (.calls call wake wait) → wait.Sound
  inHand : ∀ i request, s.production.inHand = some (i, request) → i < bound

namespace Bounded

variable {bound : Nat}

/-- A job gets other work, with fewer steps left for it. -/
theorem setWork (hb : Bounded bound s) (hj : s.job? i = some j) (hjobs : s'.jobs = s.jobs)
    (hproduction : s'.production = s.production)
    (hsound : ∀ call wake wait, work = .calls call wake wait → wait.Sound)
    (hrank : work.rank + s'.outlet.buffer.length < j.work.rank + s.outlet.buffer.length) :
    Bounded bound (s'.setWork i work) ∧ (s'.setWork i work).rank p bound < s.rank p bound := by
  have hdistinct : s'.Distinct := State.Distinct.congr hjobs hb.distinct
  have hj' : s'.job? i = some j := (State.job?_congr hjobs i).trans hj
  refine ⟨⟨hdistinct.setWork, fun k call wake wait hk => ?_, fun k request hk => ?_⟩, ?_⟩
  · rw [State.workAt_setWork hj'] at hk
    split at hk
    · exact hsound call wake wait (Option.some.inj hk)
    · rw [State.workAt_congr hjobs] at hk
      exact hb.sound k call wake wait hk
  · exact hb.inHand k request (hproduction ▸ hk)
  · have heffort : (s'.setWork i work).effort Work.rank + j.work.rank =
        s.effort Work.rank + work.rank := by
      rw [← State.effort_congr hjobs]
      exact State.effort_setWork hdistinct hj' _
    have hfree : (s'.setWork i work).isFree p = s.isFree p := by
      simp [State.isFree, State.setWork, hjobs]
    have hrest : (s'.setWork i work).rank p bound = s.production.rank bound (s.isFree p) +
        (s'.setWork i work).effort Work.rank + s'.outlet.buffer.length := by
      rw [← hfree, ← hproduction]
      rfl
    rw [hrest]
    unfold State.rank
    omega

/-- A job gets other work while the outlet keeps its results. -/
theorem setWork_quiet (hb : Bounded bound s) (hj : s.job? i = some j) (hjobs : s'.jobs = s.jobs)
    (hproduction : s'.production = s.production) (hbuffer : s'.outlet.buffer = s.outlet.buffer)
    (hwork : ∀ call wake wait, work ≠ .calls call wake wait) (hrank : work.rank < j.work.rank) :
    Bounded bound (s'.setWork i work) ∧ (s'.setWork i work).rank p bound < s.rank p bound := by
  refine hb.setWork hj hjobs hproduction (fun call wake wait h => absurd h (hwork _ _ _)) ?_
  rw [hbuffer]
  exact Nat.add_lt_add_right hrank _

/-- A piece of a call takes its job on. -/
theorem ofProgress {left calls : Nat} {scene scene' : Scene σ} {act : Act σ Call.Progress}
    (hb : Bounded bound s) (hj : s.job? i = some j)
    (hact : act.Yields (fun _ => True) (Call.Progress.LeftBelow left))
    (hleft : left + 8 ≤ j.work.rank) :
    let work := Work.ofProgress (scene.perform act).1
    Bounded bound ({ s with scene := scene', calls }.setWork i work) ∧
      State.rank ({ s with scene := scene', calls }.setWork i work) p bound < s.rank p bound := by
  intro work
  have hvalue (progress : Call.Progress) (hp : (scene.perform act).1 = .ok progress) :
      progress.LeftBelow left := Scene.perform_value hact (Prod.ext hp rfl)
  refine hb.setWork hj rfl rfl (fun call wake wait hwork => ?_) (Nat.add_lt_add_right ?_ _)
  · match hp : (scene.perform act).1 with
    | .ok (.waits call' wake' wait') =>
      simp only [work, hp, Work.ofProgress, Work.calls.injEq] at hwork
      exact hwork.2.2 ▸ (hvalue _ hp).2
    | .ok (.answered _) | .error (.error _) | .error (.crash _) =>
      simp [work, hp, Work.ofProgress] at hwork
  · refine Nat.lt_of_lt_of_le ?_ hleft
    match hp : (scene.perform act).1 with
    | .ok (.waits call' wake' wait') =>
      have hlt := (hvalue _ hp).1
      simp only [work, hp, Work.ofProgress, Work.rank]
      omega
    | .ok (.answered _) | .error (.error _) | .error (.crash _) =>
      simp only [work, hp, Work.ofProgress, Work.rank]
      omega

/-- A step of a job leaves less to do. -/
theorem step (hb : Bounded bound s) (hj : s.job? j.index = some j) (hstep : JobStep p s j e s') :
    Bounded bound s' ∧ s'.rank p bound < s.rank p bound := by
  cases hstep with
  | begins hwork =>
    have hact : (j.begin p s).Yields (fun _ => True)
        (Call.Progress.LeftBelow (2 * maxRetries + 3)) :=
      (Act.yields_onlyIf (Act.yields_record trivial)).bind fun _ _ =>
        p.batch.client.begin_left _ _ _ _
    exact hb.ofProgress hj hact (by simp [hwork, Work.rank])
  | @resumes call wake wait hwork =>
    have hsound := hb.sound _ call wake wait ((State.workAt_of_job? hj).trans (by rw [hwork]))
    exact hb.ofProgress hj (p.batch.client.resume_left call hsound s.scene.clock s.canceled)
      (by simp [hwork, Work.rank])
  | unhandled hwork =>
    exact hb.setWork_quiet hj rfl rfl rfl (by simp) (by simp [hwork, Work.rank])
  | @handles f handler scene hwork =>
    rcases (handler f s.scene.world).1 with (g | crash) | (_ | response) <;>
      exact hb.setWork_quiet hj rfl rfl rfl (by simp [Work.ofHandled])
        (by simp [hwork, Work.rank, Work.ofHandled])
  | answers scene hwork =>
    exact hb.setWork_quiet hj rfl rfl rfl (by simp) (by simp [hwork, Work.rank])
  | refused hwork =>
    exact hb.setWork_quiet hj rfl rfl rfl (by simp) (by simp [hwork, Work.rank])
  | delivers hwork =>
    -- The response is still to be read, which is one more step.
    refine hb.setWork hj rfl rfl (by simp) ?_
    simp only [hwork, Work.rank, List.length_append, List.length_singleton]
    omega
  | failsFirst hwork =>
    exact hb.setWork_quiet hj rfl rfl rfl (by simp) (by simp [hwork, Work.rank])
  | failsLater hwork =>
    exact hb.setWork_quiet hj rfl rfl rfl (by simp) (by simp [hwork, Work.rank])
  | reports scene hwork =>
    exact hb.setWork_quiet hj rfl rfl (s.outlet.buffer_cancel _) (by simp)
      (by simp [hwork, Work.rank])
  | stops hwork =>
    exact hb.setWork_quiet hj rfl rfl rfl (by simp) (by simp [hwork, Work.rank])
  | leaves hwork =>
    have heffort := State.effort_dropJob hb.distinct hj Work.rank
    refine ⟨⟨hb.distinct.dropJob, fun k call wake wait hk => ?_, hb.inHand⟩, ?_⟩
    · rw [State.workAt_dropJob] at hk
      split at hk
      · cases hk
      · exact hb.sound k call wake wait hk
    · rw [hwork] at heffort
      have hfree : s.isFree p → (s.dropJob j.index).isFree p := by
        rw [State.isFree_iff, State.isFree_iff]
        exact Nat.lt_of_le_of_lt (List.length_filter_le _ _)
      have hproduction : s.production.rank bound ((s.dropJob j.index).isFree p) ≤
          s.production.rank bound (s.isFree p) := s.production.rank_le hfree
      change s.production.rank bound ((s.dropJob j.index).isFree p) +
        (s.dropJob j.index).effort Work.rank + s.outlet.buffer.length < _
      unfold State.rank
      simp only [Work.rank] at heffort
      omega

/-- Production moves on without a new job. -/
theorem frame (hb : Bounded bound s) (hjobs : s'.jobs = s.jobs)
    (hbuffer : s'.outlet.buffer = s.outlet.buffer)
    (hinHand : ∀ i request, s'.production.inHand = some (i, request) → i < bound)
    (hrank : s'.production.rank bound (s.isFree p) < s.production.rank bound (s.isFree p)) :
    Bounded bound s' ∧ s'.rank p bound < s.rank p bound := by
  refine ⟨⟨State.Distinct.congr hjobs hb.distinct, ?_, hinHand⟩, ?_⟩
  · rw [State.workAt_congr hjobs]
    exact hb.sound
  · have hfree : s'.isFree p = s.isFree p := by simp [State.isFree, hjobs]
    unfold State.rank
    rw [State.effort_congr hjobs, hbuffer, hfree]
    omega

/-- A new job takes up the steps that production had kept for it. -/
theorem addJob {request : Request} (hb : Bounded bound s)
    (hproduction : s.production = .adds i request) (hnone : s.job? i = none) :
    let s' := { s.addJob i request with production := .checks (i + 1) }
    Bounded bound s' ∧ State.rank s' p bound < s.rank p bound := by
  refine ⟨⟨hb.distinct.addJob hnone, fun k call wake wait hk => ?_, nofun⟩, ?_⟩
  · have hk : (s.addJob i request).workAt k = some (.calls call wake wait) := hk
    rw [State.workAt_addJob hnone] at hk
    split at hk
    · cases hk
    · exact hb.sound k call wake wait hk
  · have heffort : (s.addJob i request).effort Work.rank = s.effort Work.rank + Work.begins.rank :=
      State.effort_addJob _
    change stepsPerJob * (bound - (i + 1)) + 4 + (s.addJob i request).effort Work.rank +
      s.outlet.buffer.length < _
    unfold State.rank
    rw [heffort, hproduction]
    simp only [Production.rank]
    omega

/-- A step of production leaves less to do, if a request that it gets is one of those that there
may be. -/
theorem produce (hb : Bounded bound s)
    (hends : ∀ i request, s.production = .asks i →
      (p.producer i s.scene.world).1 = .ok (some request) → i < bound)
    (hfresh : ∀ i request, s.production = .adds i request → s.job? i = none)
    (hstep : ProductionStep p s e s') : Bounded bound s' ∧ s'.rank p bound < s.rank p bound := by
  have hkeeps {i : Nat} {request : Request} (hi : i < bound) (k : Nat) (request' : Request)
      (hk : some (i, request) = some (k, request')) : k < bound := by
    cases hk
    exact hi
  have hnone (k : Nat) (request : Request) (hk : none = some (k, request)) : k < bound := by
    cases hk
  cases hstep with
  | checks hproduction | gives hproduction | exhausts _ hproduction | crashes _ hproduction
  | stops hproduction | quits hproduction | drains hproduction =>
    exact hb.frame rfl rfl hnone (by simp [hproduction, Production.rank, State.endProduction])
  | @asks i request scene hproduction hanswer =>
    have hi : i < bound := hends i request hproduction hanswer
    have hsteps := stepsPerJob_mul hi
    have hper : stepsPerJob = Work.begins.rank + 7 := rfl
    refine hb.frame rfl rfl (hkeeps hi) ?_
    simp only [hproduction, Production.rank]
    omega
  | fails scene hproduction =>
    exact hb.frame rfl (s.outlet.buffer_cancel _) hnone (by simp [hproduction, Production.rank])
  | @offers i request hproduction =>
    have hi := hb.inHand i request (by rw [hproduction]; rfl)
    refine hb.frame rfl rfl (hkeeps hi) ?_
    simp only [hproduction, Production.rank]
    split <;> omega
  | @queues i request hproduction hfull =>
    have hi := hb.inHand i request (by rw [hproduction]; rfl)
    have hbusy : s.isFree p = false :=
      Bool.eq_false_iff.2 (mt State.isFree_iff.1 (Nat.not_lt.2 hfull))
    refine hb.frame rfl rfl (hkeeps hi) ?_
    simp [hproduction, Production.rank, hbusy]
  | @claims i request hproduction hplace | @wakes i request hproduction _ _ hplace =>
    have hi := hb.inHand i request (by rw [hproduction]; rfl)
    refine hb.frame rfl rfl (hkeeps hi) ?_
    simp [hproduction, Production.rank, State.isFree_iff.2 hplace]
  | adds hproduction => exact hb.addJob hproduction (hfresh _ _ hproduction)
  | drainsCanceled hproduction =>
    exact hb.frame rfl (s.outlet.buffer_cancel _) hnone
      (by simp [hproduction, Production.rank, State.endProduction])

end Bounded

theorem Bounded.start {scene : Scene σ} {canceled : Bool} (bound : Nat)
    (hlaunch : p.launch scene canceled = .ok s) :
    Bounded bound s := by
  unfold Plan.launch at hlaunch
  split at hlaunch
  · cases hlaunch
    exact ⟨List.nodup_nil, by simp [State.workAt, State.job?, Plan.start], nofun⟩
  · cases hlaunch

theorem rank_launch {scene : Scene σ} {canceled : Bool} {bound : Nat}
    (hlaunch : p.launch scene canceled = .ok s) :
    s.rank p bound = stepsPerJob * bound + 4 := by
  unfold Plan.launch at hlaunch
  split at hlaunch <;> cases hlaunch
  simp [State.rank, State.effort, Plan.start, Production.rank, Outlet.ofCapacity]

/-- What is still to do with another outlet differs in what is to be read. -/
theorem State.rank_setOutlet (bound : Nat) (s : State σ) (outlet : Outlet Outcome) :
    State.rank { s with outlet } p bound + s.outlet.buffer.length =
      s.rank p bound + outlet.buffer.length := by
  simp only [State.rank, State.effort, State.isFree]
  omega

/-- Reading leaves less to do. -/
theorem rank_read {bound : Nat} {answer : Except Failure (Option Outcome)}
    {outlet : Outlet Outcome} (hrunning : c.ending = none)
    (hnext : c.state.outlet.next = some (answer, outlet)) :
    (c.read answer outlet).rank p bound < c.rank p bound := by
  have hrank := State.rank_setOutlet (p := p) bound c.state outlet
  unfold Outlet.next at hnext
  split at hnext
  · cases hnext
    have hsame := Nat.add_right_cancel hrank
    simp [Collection.read, Collection.rank, hrunning, hsame]
  · split at hnext
    · next hbuffer =>
      cases hnext
      simp only [hbuffer, List.length_cons] at hrank
      simp only [Collection.read, Collection.rank, hrunning]
      omega
    · split at hnext <;> cases hnext
      simp [Collection.read, Collection.rank, hrunning]

/-- However the steps of a run follow each other, all of them together are no more than were to be
taken at the beginning. -/
theorem steps_add_rank_le {s₀ : State σ} {scene : Scene σ} {bound : Nat}
    (hlaunch : p.launch scene false = .ok s₀) (hends : p.EndsAt bound) (hrun : Run p s₀ h c) :
    Bounded bound c.state ∧ steps h + c.rank p bound ≤ s₀.rank p bound + 1 := by
  induction hrun with
  | start => exact ⟨Bounded.start bound hlaunch, by simp [steps, Collection.rank]⟩
  | @turn h e c c' hrun hrunning hturn ih =>
    obtain ⟨hb, hle⟩ := ih
    have hledger := Ledger.of_seen hlaunch hrun
    rw [hrunning] at hledger
    obtain ⟨n, hl⟩ := hledger
    have hstep {c' : Collection σ} (he : e.isStep) (hlt : c'.rank p bound < c.rank p bound) :
        steps (h ++ [e]) + c'.rank p bound ≤ s₀.rank p bound + 1 := by
      simp only [steps, List.countP_append, List.countP_singleton, he, if_true] at hle ⊢
      omega
    cases hturn with
    | produces hproduce =>
      have hi (i : Nat) (request : Request) (_ : c.state.production = .asks i)
          (hanswer : (p.producer i c.state.scene.world).1 = .ok (some request)) : i < bound :=
        Nat.lt_of_not_le fun hi => hends i _ request hi hanswer
      obtain ⟨hb', hlt⟩ := hb.produce hi (fun _ _ => hl.job?_of_adds) (.of_produce hproduce)
      exact ⟨hb', hstep (isStep_shownByProduction _ _) (Nat.add_lt_add_right hlt _)⟩
    | advances hj hadvance =>
      obtain ⟨hb', hlt⟩ := hb.step hj (.of_step hadvance)
      exact ⟨hb', hstep (isStep_shownByJob _ _ _) (Nat.add_lt_add_right hlt _)⟩
    | @reads answer outlet hnext =>
      refine ⟨?_, hstep rfl (rank_read hrunning hnext)⟩
      match answer with
      | .ok (some _) | .ok none | .error _ => exact ⟨hb.distinct, hb.sound, hb.inHand⟩
    | passes hle' =>
      refine ⟨⟨hb.distinct, hb.sound, hb.inHand⟩, ?_⟩
      have hrank (t : Instant) : (c.later t).rank p bound = c.rank p bound := rfl
      simpa [steps, Happening.isStep, hrank] using hle

end Courier.Batch
