import Courier.Proofs.Batch.Session

/-!
# The dispatcher of a batch

A batch gives its jobs to a dispatcher. The submission of a unit of work looks whether the
dispatcher is canceled and then takes a worker, if one is free. Otherwise it waits until one is or
the dispatcher is canceled, and looks again. A unit that fails or crashes does four things, one
after the other : it reports (the flag `failed`), the first to do so calls the failure hook, it
cancels the dispatcher (the flag `stopped`), and it leaves its worker.

`Dispatch.Move` is what can happen to a dispatcher. Units are submitted at any time and in any
number, and their submissions take turns in any order : production sees to one of them at a time
and may turn to another between any two of its steps, but for the last one, in which the unit gets
its worker. Units end with any result, and the rest of the state may change in any way. Every
session of a batch is a course of a dispatcher (`Dispatch.exists_course`).
-/

namespace Courier.Batch

variable {σ : Type}

namespace Dispatch

/-- The failure with which a unit is reported. -/
def failureOf : Stop Failure → Failure
  | .error f => f
  | .crash c => .crashed (c.message.getD "unknown panic")

/-- What a unit does after it has ended. -/
def afterwards : Answer Failure Unit → Work
  | .ok () => .leaves
  | .error stop => .fails (failureOf stop)

/-- A unit that has not ended. -/
def Runs : Work → Prop
  | .begins | .calls _ _ _ | .handles _ | .answers _ | .delivers _ => True
  | _ => False

/-- Production sees to no submission. -/
def Idle : Production → Prop
  | .offers _ _ | .claims _ _ | .queues _ _ | .adds _ _ => False
  | _ => True

/-- The unit whose submission production sees to. -/
def offered : Production → List Nat
  | .offers i _ | .claims i _ | .queues i _ => [i]
  | _ => []

/-- The submission that production sees to, as it stands. -/
def setAside : Production → List Production
  | .offers i request => [.offers i request]
  | .claims i request => [.claims i request]
  | .queues i request => [.queues i request]
  | _ => []

/-- The unit that has a worker and has not begun. -/
def placed : Production → List Nat
  | .adds i _ => [i]
  | _ => []

theorem offered_of_idle {production : Production} (hidle : Idle production) :
    offered production = [] := by
  cases production <;> first | rfl | exact hidle.elim

theorem placed_of_idle {production : Production} (hidle : Idle production) :
    placed production = [] := by
  cases production <;> first | rfl | exact hidle.elim

theorem setAside_of_idle {production : Production} (hidle : Idle production) :
    setAside production = [] := by
  cases production <;> first | rfl | exact hidle.elim

theorem placed_of_offered {production : Production} {i : Nat}
    (hoffered : offered production = [i]) : placed production = [] := by
  cases production <;> first | rfl | cases hoffered

theorem offered_setAside (production : Production) :
    (setAside production).flatMap offered = offered production := by
  cases production <;> rfl

theorem mem_of_mem_setAside {production next : Production} (h : next ∈ setAside production) :
    next = production := by
  cases production <;> simp only [setAside, List.mem_singleton, List.not_mem_nil] at h <;> exact h

theorem placed_of_mem_setAside {production next : Production} (h : next ∈ setAside production) :
    placed next = [] := by
  cases production <;> simp only [setAside, List.mem_singleton, List.not_mem_nil] at h <;>
    rw [h] <;> rfl

/-- What happens to a dispatcher. -/
inductive Deed where
  | submits (unit : Nat)
  /-- The submission of a unit finds that the dispatcher is not canceled. -/
  | looks (unit : Nat)
  /-- A unit gets a worker. -/
  | accepts (unit : Nat)
  /-- The submission of a unit fails, as canceled. -/
  | refuses (unit : Nat)
  | begins (unit : Nat)
  | ends (unit : Nat) (result : Answer Failure Unit)
  /-- A unit sets the flag that there has been a failure, or finds it set. -/
  | reports (unit : Nat)
  /-- The failure hook is called, and returns. -/
  | hooks (f : Failure)
  /-- A unit cancels the dispatcher. -/
  | stops (unit : Nat)
  /-- A unit leaves its worker. -/
  | leaves (unit : Nat)
  /-- Waiting for all units is over. -/
  | returns
  /-- The caller cancels the batch. -/
  | cancels
  | moves
  deriving DecidableEq

/-- The state of a batch, with its submissions. -/
structure Desk (σ : Type) where
  state : State σ
  /-- The submissions that production does not see to now, as they stand. -/
  waiting : List Production := []
  /-- How many units have been submitted. -/
  submitted : Nat := 0

/-! ## Courses -/

section

variable (p : Plan σ)

/-- What production does in a step of a submission. -/
def doneBySubmission (s : State σ) : Deed :=
  match s.production with
  | .offers i _ | .queues i _ => if s.stopped || s.canceled then .refuses i else .looks i
  | .claims i _ => if s.isFree p then .accepts i else .moves
  | .adds i _ => .begins i
  | _ => .moves

/-- The result of a unit whose call has come so far, if the unit ends. -/
def calledResult : Answer Failure Call.Progress → Option (Answer Failure Unit)
  | .error (.crash c) => some (.error (.crash c))
  | _ => none

/-- The result of a unit whose handler gave an answer, if the unit ends. -/
def handledResult (index : Nat) :
    Answer Failure (Option Response) → Option (Answer Failure Unit)
  | .ok (some _) => none
  | .ok none => some (.ok ())
  | .error (.error f) => some (.error (.error (.multiplex index f)))
  | .error (.crash c) => some (.error (.crash c))

/-- The result of a job, if it ends with its next step. -/
def result? (s : State σ) (j : Job) : Option (Answer Failure Unit) :=
  match j.work with
  | .begins => calledResult (s.scene.perform (j.begin p s)).1
  | .calls call _ wait => calledResult (s.scene.perform (resumed p s call wait)).1
  | .handles f =>
    match p.handler with
    | none => some (.error (.error (.multiplex j.index f)))
    | some handler => handledResult j.index (handler f s.scene.world).1
  | .delivers _ => some (if s.outlet.refuses then .error (.error .canceled) else .ok ())
  | _ => none

/-- What a job does in a step. -/
def doneByJob (s : State σ) (j : Job) : Deed :=
  match j.work with
  | .fails _ => .reports j.index
  | .reports f => .hooks f
  | .stops => .stops j.index
  | .leaves => .leaves j.index
  | _ => ((result? p s j).map (.ends j.index)).getD .moves

/-- Somebody who waits for all units is told that there are none. -/
def Returns (s : State σ) : Prop :=
  placed s.production = [] ∧ (produce p { s with production := .drains }).isSome

/-- What can happen to a dispatcher. -/
inductive Move : Desk σ → Deed → Desk σ → Prop where
  | submits {d : Desk σ} (request : Request) :
      Move d (.submits d.submitted)
        ⟨d.state, d.waiting ++ [.offers d.submitted request], d.submitted + 1⟩
  /-- Production turns to another submission. -/
  | turns {d : Desk σ} {next : Production} {waiting : List Production}
      (hfree : placed d.state.production = []) (hwaiting : d.waiting.Perm (next :: waiting)) :
      Move d .moves
        ⟨{ d.state with production := next }, waiting ++ setAside d.state.production, d.submitted⟩
  /-- A submission goes on. -/
  | executes {d : Desk σ} {s : State σ} (hbusy : ¬Idle d.state.production)
      (h : produce p d.state = some s) : Move d (doneBySubmission p d.state) { d with state := s }
  /-- A job takes a step of its own. -/
  | advances {d : Desk σ} {s : State σ} {j : Job} (hj : d.state.job? j.index = some j)
      (h : step p d.state j = some s) : Move d (doneByJob p d.state j) { d with state := s }
  /-- A unit that is not the job of a batch ends as it likes. -/
  | ends {d : Desk σ} {j : Job} (hj : d.state.job? j.index = some j) (hruns : Runs j.work)
      (result : Answer Failure Unit) :
      Move d (.ends j.index result)
        { d with state := d.state.setWork j.index (afterwards result) }
  | returns {d : Desk σ} (h : Returns p d.state) : Move d .returns d
  | cancels {d : Desk σ} : Move d .cancels { d with state := { d.state with canceled := true } }
  /-- Anything else happens, but for submissions. -/
  | moves {d : Desk σ} {scene : Scene σ} {outlet : Outlet Outcome} {production : Production}
      (h : production = d.state.production ∨ Idle d.state.production ∧ Idle production) :
      Move d .moves { d with state := { d.state with scene, outlet, production } }

/-- The courses of a dispatcher from a state on, with their histories. -/
abbrev Course : Desk σ → List Deed → Desk σ → Prop :=
  Path (Move p)

end

/-! ## Histories -/

section

variable (h h' : List Deed) (i : Nat)

/-- The units that got a worker. -/
def accepted : List Nat :=
  h.filterMap fun
    | .accepts i => some i
    | _ => none

/-- The units that left their workers. -/
def left : List Nat :=
  h.filterMap fun
    | .leaves i => some i
    | _ => none

/-- The units that reported. -/
def reported : List Nat :=
  h.filterMap fun
    | .reports i => some i
    | _ => none

/-- The failures with which the hook was called. -/
def hooked : List Failure :=
  h.filterMap fun
    | .hooks f => some f
    | _ => none

/-- The results with which a unit ended. -/
def results : List (Answer Failure Unit) :=
  h.filterMap fun
    | .ends k result => if k = i then some result else none
    | _ => none

@[simp] theorem accepted_append : accepted (h ++ h') = accepted h ++ accepted h' :=
  List.filterMap_append

@[simp] theorem left_append : left (h ++ h') = left h ++ left h' :=
  List.filterMap_append

@[simp] theorem reported_append : reported (h ++ h') = reported h ++ reported h' :=
  List.filterMap_append

@[simp] theorem hooked_append : hooked (h ++ h') = hooked h ++ hooked h' :=
  List.filterMap_append

@[simp] theorem results_append : results (h ++ h') i = results h i ++ results h' i :=
  List.filterMap_append

@[simp] theorem results_ends (result : Answer Failure Unit) :
    results [.ends i result] i = [result] := by
  simp [results]

theorem results_ends_of_ne {i k : Nat} (hne : k ≠ i) (result : Answer Failure Unit) :
    results [.ends i result] k = [] := by
  simp [results, hne.symm]

/-- A unit that failed or crashed. -/
def Failed : Prop :=
  ∃ stop, .error stop ∈ results h i

/-- What cancels a dispatcher : a unit that has failed, or the caller. -/
def Deed.Cancels : Deed → Prop
  | .stops _ | .cancels => True
  | _ => False

/-- The dispatcher is canceled after a history, or the batch was canceled at first. -/
def Canceled (canceled : Bool) (h : List Deed) : Prop :=
  canceled ∨ ∃ e ∈ h, e.Cancels

end

/-! ## What a step changes -/

variable {p : Plan σ} {s s' : State σ} {j : Job}

/-- A step of a unit, with what it does. -/
inductive UnitStep (s : State σ) (j : Job) : Deed → State σ → Prop where
  | runs {scene : Scene σ} {calls : Nat} {work : Work} (hruns : Runs j.work)
      (hwork : Runs work) :
      UnitStep s j .moves ({ s with scene, calls }.setWork j.index work)
  | ends {scene : Scene σ} {outlet : Outlet Outcome} {calls : Nat} (hruns : Runs j.work)
      (result : Answer Failure Unit) :
      UnitStep s j (.ends j.index result)
        ({ s with scene, outlet, calls }.setWork j.index (afterwards result))
  | reportsFirst {f : Failure} (hwork : j.work = .fails f) (hfirst : s.failed = false) :
      UnitStep s j (.reports j.index) ({ s with failed := true }.setWork j.index (.reports f))
  | reportsLater {f : Failure} (hwork : j.work = .fails f) (hfailed : s.failed) :
      UnitStep s j (.reports j.index) (s.setWork j.index .stops)
  | hooks {scene : Scene σ} {outlet : Outlet Outcome} {f : Failure} (hwork : j.work = .reports f) :
      UnitStep s j (.hooks f) ({ s with scene, outlet }.setWork j.index .stops)
  | stops (hwork : j.work = .stops) :
      UnitStep s j (.stops j.index) ({ s with stopped := true }.setWork j.index .leaves)
  | leaves (hwork : j.work = .leaves) : UnitStep s j (.leaves j.index) (s.dropJob j.index)

namespace UnitStep

/-- A piece of a call, which ends the unit if it crashes. -/
theorem ofProgress {answer : Answer Failure Call.Progress} {scene : Scene σ} {calls : Nat}
    (hruns : Runs j.work) :
    UnitStep s j (((calledResult answer).map (.ends j.index)).getD .moves)
      ({ s with scene, calls }.setWork j.index (.ofProgress answer)) := by
  match answer with
  | .ok (.waits ..) | .ok (.answered _) | .error (.error _) => exact .runs hruns trivial
  | .error (.crash c) => exact .ends hruns (.error (.crash c))

/-- The handler's answer, which ends the unit unless there is a response. -/
theorem ofHandled {answer : Answer Failure (Option Response)} {scene : Scene σ}
    (hruns : Runs j.work) :
    UnitStep s j (((handledResult j.index answer).map (.ends j.index)).getD .moves)
      ({ s with scene }.setWork j.index (.ofHandled j.index answer)) := by
  match answer with
  | .ok (some _) => exact .runs hruns trivial
  | .ok none => exact .ends hruns (.ok ())
  | .error (.error f) => exact .ends hruns (.error (.error (.multiplex j.index f)))
  | .error (.crash c) => exact .ends hruns (.error (.crash c))

theorem of_step (hstep : step p s j = some s') : UnitStep s j (doneByJob p s j) s' := by
  have hshown := JobStep.of_step hstep
  generalize shownByJob p s j = shown at hshown
  unfold doneByJob result?
  cases hshown with
  | begins hwork | resumes hwork =>
    simp only [hwork]
    exact .ofProgress (hwork ▸ trivial)
  | unhandled hwork hhandler =>
    simp only [hwork, hhandler]
    exact .ends (hwork ▸ trivial) (.error (.error _))
  | handles scene hwork hhandler =>
    simp only [hwork, hhandler]
    exact .ofHandled (hwork ▸ trivial)
  | answers scene hwork =>
    simp only [hwork]
    exact .runs (hwork ▸ trivial) trivial
  | refused hwork hrefuses =>
    simp only [hwork, hrefuses, if_true]
    exact .ends (hwork ▸ trivial) (.error (.error .canceled))
  | delivers hwork haccepts =>
    simp only [hwork, haccepts, Bool.false_eq_true, if_false]
    exact .ends (hwork ▸ trivial) (.ok ())
  | failsFirst hwork hfirst =>
    simp only [hwork]
    exact .reportsFirst hwork hfirst
  | failsLater hwork hfailed =>
    simp only [hwork]
    exact .reportsLater hwork hfailed
  | reports scene hwork =>
    simp only [hwork]
    exact .hooks hwork
  | stops hwork =>
    simp only [hwork]
    exact .stops hwork
  | leaves hwork =>
    simp only [hwork]
    exact .leaves hwork

end UnitStep

/-- A step of a submission, with what it does. -/
inductive Submission (p : Plan σ) (s : State σ) : Deed → State σ → Prop where
  | refuses {i : Nat} (hoffered : offered s.production = [i]) (hshut : s.stopped ∨ s.canceled) :
      Submission p s (.refuses i) { s with production := .drains }
  | looks {i : Nat} {request : Request} (hoffered : offered s.production = [i])
      (hopen : ¬(s.stopped ∨ s.canceled)) :
      Submission p s (.looks i) { s with production := .claims i request }
  | accepts {i : Nat} {request : Request} (hproduction : s.production = .claims i request) :
      Submission p s (.accepts i) { s with production := .adds i request }
  | queues {i : Nat} {request : Request} (hproduction : s.production = .claims i request) :
      Submission p s .moves { s with production := .queues i request }
  | begins {i : Nat} {request : Request} (hproduction : s.production = .adds i request) :
      Submission p s (.begins i)
        { s.addJob i request with production := .checks (i + 1) }

theorem Submission.of_produce (hbusy : ¬Idle s.production) (hstep : produce p s = some s') :
    Submission p s (doneBySubmission p s) s' := by
  have hshown := ProductionStep.of_produce hstep
  generalize shownByProduction p s = shown at hshown
  unfold doneBySubmission
  cases hshown with
  | checks hproduction | gives hproduction | asks _ hproduction | exhausts _ hproduction
    | fails _ hproduction | crashes _ hproduction | drains hproduction
    | drainsCanceled hproduction => exact absurd (hproduction ▸ trivial) hbusy
  | stops hproduction hstopped | quits hproduction hstopped =>
    simp only [hproduction, Bool.or_eq_true, hstopped, if_true]
    exact .refuses (by rw [hproduction]; rfl) hstopped
  | offers hproduction hstopped hcanceled | wakes hproduction hstopped hcanceled =>
    have hopen : ¬(s.stopped ∨ s.canceled) := by simp [hstopped, hcanceled]
    simp only [hproduction, Bool.or_eq_true, hopen, if_false]
    exact .looks (by rw [hproduction]; rfl) hopen
  | claims hproduction hplace =>
    simp only [hproduction, State.isFree_iff.2 hplace, if_true]
    exact .accepts hproduction
  | queues hproduction hfull =>
    have hbusy : ¬s.isFree p := mt State.isFree_iff.1 (Nat.not_lt_of_le hfull)
    simp only [hproduction, hbusy]
    exact .queues hproduction
  | adds hproduction =>
    simp only [hproduction]
    exact .begins hproduction

/-! ## Batches -/

/-- How many units have been submitted when production has come so far. -/
def Numbered (submitted : Nat) : Production → Prop
  | .checks i | .asks i => submitted = i
  | .offers i _ | .claims i _ | .queues i _ | .adds i _ => submitted = i + 1
  | .drains | .over => True

theorem UnitStep.production_eq {e : Deed} (hstep : UnitStep s j e s') :
    s'.production = s.production := by
  cases hstep <;> rfl

/-- Production that sees to no submission turns to one. -/
theorem Move.of_idle {d : Desk σ} {next : Production} {waiting : List Production}
    (hidle : Idle d.state.production) (hwaiting : d.waiting.Perm (next :: waiting)) :
    Move p d .moves ⟨{ d.state with production := next }, waiting, d.submitted⟩ := by
  have hturns := Move.turns (p := p) (placed_of_idle hidle) hwaiting
  rwa [setAside_of_idle hidle, List.append_nil] at hturns

/-- A dispatcher of one submission at a time does what production does. -/
theorem exists_course_of_produce {n : Nat} (hn : Numbered n s.production)
    (hstep : produce p s = some s') :
    ∃ h n', Course p ⟨s, [], n⟩ h ⟨s', [], n'⟩ ∧ Numbered n' s'.production := by
  have hmoves {scene : Scene σ} {outlet : Outlet Outcome} {production production' : Production}
      (hproduction : s.production = production) (hidle : Idle production)
      (hidle' : Idle production') :
      Course p ⟨s, [], n⟩ [.moves] ⟨{ s with scene, outlet, production := production' }, [], n⟩ :=
    .cons (.moves (.inr ⟨hproduction ▸ hidle, hidle'⟩)) .nil
  obtain ⟨_, hshown⟩ := Session.exists_productionStep hstep
  cases hshown with
  | checks hproduction =>
    rw [hproduction] at hn
    exact ⟨_, n, hmoves hproduction trivial trivial, hn⟩
  | gives hproduction | exhausts _ hproduction | fails _ hproduction | crashes _ hproduction
    | drains hproduction | drainsCanceled hproduction =>
    exact ⟨_, n, hmoves hproduction trivial trivial, trivial⟩
  | @asks i request scene hproduction =>
    -- a request that is given is a submission, to which production turns at once
    rw [hproduction] at hn
    obtain rfl : n = i := hn
    have hasks : Course p ⟨s, [], n⟩ [.moves] ⟨{ s with scene }, [], n⟩ :=
      .cons (.moves (.inl rfl)) .nil
    have hidle : Idle s.production := hproduction ▸ trivial
    exact ⟨_, n + 1, hasks.append (.cons (.submits _) (.cons (.of_idle hidle .rfl) .nil)), rfl⟩
  | stops hproduction | quits hproduction =>
    have hbusy : ¬Idle s.production := by simp [hproduction, Idle]
    exact ⟨_, n, .cons (.executes hbusy hstep) .nil, trivial⟩
  | offers hproduction | claims hproduction | queues hproduction | wakes hproduction
    | adds hproduction =>
    have hbusy : ¬Idle s.production := by simp [hproduction, Idle]
    rw [hproduction] at hn
    exact ⟨_, n, .cons (.executes hbusy hstep) .nil, hn⟩

/-- Whatever happens in a session of a batch can happen to a dispatcher. -/
theorem exists_course {scene : Scene σ} {canceled : Bool} {h : List Session.Deed}
    (hcourse : Session.Course p (p.start scene canceled) h s) :
    ∃ h' n, Course p { state := p.start scene canceled } h' ⟨s, [], n⟩ := by
  obtain ⟨h', n, hcourse, -⟩ := hcourse.invariant
    (I := fun _ s => ∃ h' n, Course p { state := p.start scene canceled } h' ⟨s, [], n⟩ ∧
      Numbered n s.production) ⟨[], 0, .nil, rfl⟩ <| by
    rintro - e s₁ s₂ ⟨h', n, hcourse, hn⟩ hmove
    cases hmove with
    | produces hstep =>
      obtain ⟨h'', n', hcourse', hn'⟩ := exists_course_of_produce hn hstep
      exact ⟨_, n', hcourse.append hcourse', hn'⟩
    | advances hj hstep =>
      have hproduction := (UnitStep.of_step hstep).production_eq
      exact ⟨_, n, hcourse.snoc (.advances hj hstep), hproduction ▸ hn⟩
    | cancels => exact ⟨_, n, hcourse.snoc .cancels, hn⟩
    | reads | dismisses | leaves | passes => exact ⟨_, n, hcourse.snoc (.moves (.inl rfl)), hn⟩
  exact ⟨h', n, hcourse⟩

end Dispatch

end Courier.Batch
