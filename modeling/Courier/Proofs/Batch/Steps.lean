import Courier.Proofs.Batch.Collection

/-!
# The steps of a batch

All that a job can do in one step (`JobStep`), and all that production can do (`ProductionStep`),
each with what it shows. Whatever the steps of a batch keep is proved case by case from these.
-/

namespace Courier

/-! ## Canceling an outlet -/

namespace Outlet

variable {α : Type} (o : Outlet α) (f : Failure)

@[simp] theorem canceled_cancel : (o.cancel f).canceled = true := by
  unfold cancel
  split
  · next hc => exact hc
  · rfl

@[simp] theorem buffer_cancel : (o.cancel f).buffer = o.buffer := by
  unfold cancel
  split <;> rfl

@[simp] theorem capacity_cancel : (o.cancel f).capacity = o.capacity := by
  unfold cancel
  split <;> rfl

@[simp] theorem closed_cancel : (o.cancel f).closed = o.closed := by
  unfold cancel
  split <;> rfl

@[simp] theorem writers_cancel : (o.cancel f).writers = o.writers := by
  unfold cancel
  split <;> rfl

end Outlet

namespace Batch

variable {σ : Type} {p : Plan σ} {s s' : State σ} {j : Job}

/-! ## Pieces of work in the world -/

theorem State.act_eq {α : Type} (s : State σ) (a : Act σ α) :
    s.act a = ((s.scene.perform a).1, { s with scene := (s.scene.perform a).2 }) :=
  rfl

/-- A collaborator that is asked gives its own answer. -/
theorem perform_record_ask {α : Type} (scene : Scene σ) (event : Event)
    (f : σ → Answer Failure α × σ) :
    (scene.perform (Act.record event >>= fun _ => Act.ask id f)).1 = (f scene.world).1 := by
  have hid (answer : Answer Failure α) : answer.mapError (Act.stopped id) = answer := by
    rcases answer with (f | crash) | a <;> rfl
  rw [scene.perform_bind _ fun _ => Act.yields_ask (P := fun _ => True) _ _, Scene.perform_record]
  simp only [Scene.perform_ask, hid]
  rfl

/-! ## Jobs -/

/-- A step of a job, with what it shows. -/
inductive JobStep (p : Plan σ) (s : State σ) (j : Job) : Happening → State σ → Prop where
  | begins (hwork : j.work = .begins) :
      JobStep p s j (shownByCall j.index (s.scene.perform (j.begin p s)).1)
        ({ s with scene := (s.scene.perform (j.begin p s)).2, calls := s.calls + 1 }.setWork j.index
          (.ofProgress (s.scene.perform (j.begin p s)).1))
  | resumes {call : Call} {wake : Instant} {wait : Call.Wait}
      (hwork : j.work = .calls call wake wait) (hwake : s.canceled ∨ wake ≤ s.scene.clock.now) :
      JobStep p s j (shownByCall j.index (s.scene.perform (resumed p s call wait)).1)
        ({ s with scene := (s.scene.perform (resumed p s call wait)).2 }.setWork j.index
          (.ofProgress (s.scene.perform (resumed p s call wait)).1))
  /-- There is no handler to ask about a failure. -/
  | unhandled {f : Failure} (hwork : j.work = .handles f) (hhandler : p.handler = none) :
      JobStep p s j .moved (s.setWork j.index (.fails (.multiplex j.index f)))
  | handles {f : Failure} {handler : Handler σ} (scene : Scene σ) (hwork : j.work = .handles f)
      (hhandler : p.handler = some handler) :
      JobStep p s j (.handled j.index f (handler f s.scene.world).1)
        ({ s with scene }.setWork j.index (.ofHandled j.index (handler f s.scene.world).1))
  | answers {response : Response} (scene : Scene σ) (hwork : j.work = .answers response) :
      JobStep p s j .moved ({ s with scene }.setWork j.index (.delivers response))
  /-- The outlet does not take a response. -/
  | refused {response : Response} (hwork : j.work = .delivers response)
      (hrefuses : s.outlet.refuses) :
      JobStep p s j .moved (s.setWork j.index (.fails .canceled))
  | delivers {response : Response} (hwork : j.work = .delivers response)
      (haccepts : s.outlet.refuses = false)
      (hroom : s.outlet.buffer.length < s.outlet.capacity) :
      JobStep p s j .moved
        ({ s with outlet := { s.outlet with
          buffer := s.outlet.buffer ++ [Outcome.mk j.index response] } }.setWork j.index .leaves)
  | failsFirst {f : Failure} (hwork : j.work = .fails f) (hfirst : s.failed = false) :
      JobStep p s j .moved ({ s with failed := true }.setWork j.index (.reports f))
  | failsLater {f : Failure} (hwork : j.work = .fails f) (hfailed : s.failed) :
      JobStep p s j .moved (s.setWork j.index .stops)
  | reports {f : Failure} (scene : Scene σ) (hwork : j.work = .reports f) :
      JobStep p s j .moved ({ s with scene, outlet := s.outlet.cancel f }.setWork j.index .stops)
  | stops (hwork : j.work = .stops) :
      JobStep p s j .moved ({ s with stopped := true }.setWork j.index .leaves)
  | leaves (hwork : j.work = .leaves) : JobStep p s j .moved (s.dropJob j.index)

theorem JobStep.of_step (hstep : step p s j = some s') : JobStep p s j (shownByJob p s j) s' := by
  unfold step at hstep
  unfold shownByJob
  cases hwork : j.work with
  | begins =>
    simp only [hwork, State.act_eq, Option.some.injEq] at hstep ⊢
    exact hstep ▸ .begins hwork
  | calls call wake wait =>
    simp only [hwork, State.act_eq] at hstep ⊢
    split at hstep
    · next hwake =>
      cases hstep
      exact .resumes hwork (by simpa using hwake)
    · cases hstep
  | handles f =>
    simp only [hwork] at hstep ⊢
    cases hhandler : p.handler with
    | none =>
      simp only [hhandler, Option.some.injEq] at hstep ⊢
      exact hstep ▸ .unhandled hwork hhandler
    | some handler =>
      simp only [hhandler, State.act_eq, perform_record_ask, Option.some.injEq] at hstep ⊢
      exact hstep ▸ .handles _ hwork hhandler
  | answers response =>
    simp only [hwork, State.act_eq, Option.some.injEq] at hstep ⊢
    exact hstep ▸ .answers _ hwork
  | delivers response =>
    simp only [hwork, Outlet.write] at hstep ⊢
    cases hrefuses : s.outlet.refuses with
    | true =>
      simp only [hrefuses, if_true, Option.some.injEq] at hstep
      exact hstep ▸ .refused hwork hrefuses
    | false =>
      by_cases hroom : s.outlet.buffer.length < s.outlet.capacity
      · simp only [hrefuses, hroom, if_true, if_false, Bool.false_eq_true, Option.some.injEq]
          at hstep
        exact hstep ▸ .delivers hwork hrefuses hroom
      · simp [hrefuses, hroom] at hstep
  | fails f =>
    simp only [hwork] at hstep ⊢
    split at hstep
    · next hfailed =>
      cases hstep
      exact .failsLater hwork hfailed
    · next hfirst =>
      cases hstep
      exact .failsFirst hwork (Bool.eq_false_iff.2 hfirst)
  | reports f =>
    simp only [hwork, State.act_eq, Option.some.injEq] at hstep ⊢
    exact hstep ▸ .reports _ hwork
  | stops =>
    simp only [hwork, Option.some.injEq] at hstep ⊢
    exact hstep ▸ .stops hwork
  | leaves =>
    simp only [hwork, Option.some.injEq] at hstep ⊢
    exact hstep ▸ .leaves hwork

/-! ## Production -/

theorem State.isFree_iff : s.isFree p ↔ s.jobs.length < p.batch.places :=
  decide_eq_true_iff

/-- The request that production has in hand, with its index. -/
def Production.inHand : Production → Option (Nat × Request)
  | .offers i request | .claims i request | .queues i request | .adds i request =>
    some (i, request)
  | .checks _ | .asks _ | .drains | .over => none

/-- A step of production, with what it shows. -/
inductive ProductionStep (p : Plan σ) (s : State σ) : Happening → State σ → Prop where
  | checks {i : Nat} (hproduction : s.production = .checks i) (hgoes : s.canceled = false)
      (haccepts : s.outlet.refuses = false) :
      ProductionStep p s .moved { s with production := .asks i }
  /-- There is no one to produce for. -/
  | gives {i : Nat} (hproduction : s.production = .checks i)
      (hends : s.canceled ∨ s.outlet.refuses) :
      ProductionStep p s .moved { s with production := .drains }
  | asks {i : Nat} {request : Request} (scene : Scene σ) (hproduction : s.production = .asks i)
      (hanswer : (p.producer i s.scene.world).1 = .ok (some request)) :
      ProductionStep p s (.asked i (.ok (some request)))
        { s with scene, production := .offers i (request.configure p.settings.headers) }
  /-- There are no more requests. -/
  | exhausts {i : Nat} (scene : Scene σ) (hproduction : s.production = .asks i)
      (hanswer : (p.producer i s.scene.world).1 = .ok none) :
      ProductionStep p s (.asked i (.ok none)) { s with scene, production := .drains }
  | fails {i : Nat} {f : Failure} (scene : Scene σ) (hproduction : s.production = .asks i)
      (hanswer : (p.producer i s.scene.world).1 = .error (.error f)) :
      ProductionStep p s (.asked i (.error (.error f)))
        { s with scene, production := .drains, outlet := s.outlet.cancel (.producer i f) }
  | crashes {i : Nat} {crash : Crash} (scene : Scene σ) (hproduction : s.production = .asks i)
      (hanswer : (p.producer i s.scene.world).1 = .error (.crash crash)) :
      ProductionStep p s (.asked i (.error (.crash crash))) { s with scene }.endProduction
  /-- The batch was stopped. -/
  | stops {i : Nat} {request : Request} (hproduction : s.production = .offers i request)
      (hstopped : s.stopped ∨ s.canceled) :
      ProductionStep p s .moved { s with production := .drains }
  | offers {i : Nat} {request : Request} (hproduction : s.production = .offers i request)
      (hstopped : s.stopped = false) (hcanceled : s.canceled = false) :
      ProductionStep p s .moved { s with production := .claims i request }
  /-- A worker is free for a request, whether the batch was stopped meanwhile or not. -/
  | claims {i : Nat} {request : Request} (hproduction : s.production = .claims i request)
      (hplace : s.jobs.length < p.batch.places) :
      ProductionStep p s .moved { s with production := .adds i request }
  /-- No worker is free. -/
  | queues {i : Nat} {request : Request} (hproduction : s.production = .claims i request)
      (hfull : p.batch.places ≤ s.jobs.length) :
      ProductionStep p s .moved { s with production := .queues i request }
  /-- The batch was stopped while a request waited for a worker. -/
  | quits {i : Nat} {request : Request} (hproduction : s.production = .queues i request)
      (hstopped : s.stopped ∨ s.canceled) :
      ProductionStep p s .moved { s with production := .drains }
  /-- A request that waited for a worker is told that one is free. -/
  | wakes {i : Nat} {request : Request} (hproduction : s.production = .queues i request)
      (hstopped : s.stopped = false) (hcanceled : s.canceled = false)
      (hplace : s.jobs.length < p.batch.places) :
      ProductionStep p s .moved { s with production := .claims i request }
  | adds {i : Nat} {request : Request} (hproduction : s.production = .adds i request) :
      ProductionStep p s .moved { s.addJob i request with production := .checks (i + 1) }
  | drains (hproduction : s.production = .drains) (hjobs : s.jobs = [])
      (hquiet : s.failed ∨ s.canceled = false) :
      ProductionStep p s .moved s.endProduction
  /-- The caller has canceled the batch, and nothing else ends it. -/
  | drainsCanceled (hproduction : s.production = .drains) (hjobs : s.jobs = [])
      (hfailed : s.failed = false) (hcanceled : s.canceled) :
      ProductionStep p s .moved { s with outlet := s.outlet.cancel .canceled }.endProduction

theorem ProductionStep.of_produce (hstep : produce p s = some s') :
    ProductionStep p s (shownByProduction p s) s' := by
  unfold produce at hstep
  unfold shownByProduction
  match hproduction : s.production with
  | .checks i =>
    simp only [hproduction, Option.some.injEq] at hstep ⊢
    subst hstep
    split
    · next hgoes =>
      simp only [Bool.and_eq_true, Bool.not_eq_true'] at hgoes
      exact .checks hproduction hgoes.1 hgoes.2
    · next hends =>
      refine .gives hproduction ?_
      simpa [Decidable.or_iff_not_imp_left] using hends
  | .asks i =>
    simp only [hproduction, State.act_eq, perform_record_ask] at hstep ⊢
    match hanswer : (p.producer i s.scene.world).1 with
    | .ok none =>
      simp only [hanswer, Option.some.injEq] at hstep ⊢
      exact hstep ▸ .exhausts _ hproduction hanswer
    | .ok (some request) =>
      simp only [hanswer, Option.some.injEq] at hstep ⊢
      exact hstep ▸ .asks _ hproduction hanswer
    | .error (.error f) =>
      simp only [hanswer, Option.some.injEq] at hstep ⊢
      exact hstep ▸ .fails _ hproduction hanswer
    | .error (.crash crash) =>
      simp only [hanswer, Option.some.injEq] at hstep ⊢
      exact hstep ▸ .crashes _ hproduction hanswer
  | .offers i request =>
    simp only [hproduction, Option.some.injEq] at hstep ⊢
    subst hstep
    split
    · next hstopped => exact .stops hproduction (by simpa using hstopped)
    · next hgoes =>
      simp only [Bool.or_eq_true, not_or, Bool.not_eq_true] at hgoes
      exact .offers hproduction hgoes.1 hgoes.2
  | .claims i request =>
    simp only [hproduction, Option.some.injEq] at hstep ⊢
    subst hstep
    split
    · next hfree => exact .claims hproduction (State.isFree_iff.1 hfree)
    · next hfull => exact .queues hproduction (Nat.le_of_not_lt (mt State.isFree_iff.2 hfull))
  | .queues i request =>
    simp only [hproduction] at hstep ⊢
    split at hstep
    · next hstopped =>
      cases hstep
      exact .quits hproduction (by simpa using hstopped)
    · next hgoes =>
      simp only [Bool.or_eq_true, not_or, Bool.not_eq_true] at hgoes
      split at hstep
      · next hfree =>
        cases hstep
        exact .wakes hproduction hgoes.1 hgoes.2 (State.isFree_iff.1 hfree)
      · cases hstep
  | .adds i request =>
    simp only [hproduction, Option.some.injEq] at hstep ⊢
    exact hstep ▸ .adds hproduction
  | .drains =>
    simp only [hproduction] at hstep ⊢
    split at hstep
    · next hjobs =>
      have hjobs : s.jobs = [] := List.isEmpty_iff.1 hjobs
      cases hstep
      split
      · next hcanceled =>
        simp only [Bool.and_eq_true, Bool.not_eq_true'] at hcanceled
        exact .drainsCanceled hproduction hjobs hcanceled.1 hcanceled.2
      · next hquiet =>
        refine .drains hproduction hjobs ?_
        simpa [Decidable.or_iff_not_imp_left] using hquiet
    · cases hstep
  | .over => simp [hproduction] at hstep

end Batch

end Courier
