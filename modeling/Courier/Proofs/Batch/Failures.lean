import Courier.Proofs.Batch.Units

/-!
# Failures of units

What a dispatcher promises about the units that fail (`Dispatch.FailureProtocol`). However its
units end, and in whatever order everybody takes his steps, the failure hook is called once if any
unit fails, with the failure of the first to report. After a unit that failed, or the caller, has
canceled the dispatcher, every submission that looks at it fails. Whoever waits for all units is not
told that there are none before the hook has been called.

A submission that has looked before does not look again before it takes a worker, though. So a unit
is accepted all the same if the dispatcher is canceled between the two, and its worker may be that
of the unit that failed (`Dispatch.exists_straggler`). Without such a straggler, nobody gets the
worker of a unit that failed, for a unit cancels the dispatcher before it leaves its worker.
-/

namespace Courier.Batch.Dispatch

variable {σ : Type} {p : Plan σ} {s : State σ} {d d' : Desk σ} {h before after : List Deed}
  {i k : Nat} {canceled : Bool}

/-- A way to tell the workers apart : two units that have one at a time have different ones. -/
def Seats (seat : Nat → Nat) (h : List Deed) : Prop :=
  ∀ before k after, h = before ++ .accepts k :: after →
    ∀ i ∈ accepted before, i ∉ left before → seat i ≠ seat k

/-- A unit that was accepted after the dispatcher had been canceled. -/
def Straggler (canceled : Bool) (h : List Deed) (k : Nat) : Prop :=
  ∃ before after, h = before ++ after ∧ Canceled canceled before ∧ k ∈ accepted after

/-- What a dispatcher promises about failures. -/
structure FailureProtocol (p : Plan σ) (canceled : Bool) (h : List Deed) (d : Desk σ) : Prop where
  /-- The hook is called once at most, with the failure of the first unit to report. -/
  first : hooked h = [] ∨
    ∃ i stop, (reported h).head? = some i ∧ results h i = [.error stop] ∧
      hooked h = [failureOf stop]
  /-- If a unit has failed, the hook has been called, or a unit can report now and call it, or
  has reported and can call it now. -/
  due : (∃ i, Failed h i) → hooked h = [] →
    ∃ i f d', Course p d [.hooks f] d' ∨ Course p d [.reports i, .hooks f] d'
  /-- Once the dispatcher is canceled, no submission looks at it and goes on. -/
  shut : ∀ before after, h = before ++ after → Canceled canceled before → ∀ k, .looks k ∉ after
  /-- The submission that production sees to fails when it looks, ... -/
  refuses : Canceled canceled h → ∀ i request,
    d.state.production = .offers i request ∨ d.state.production = .queues i request →
      Move p d (.refuses i) { d with state := { d.state with production := .drains } }
  /-- ... and any other does so when production turns to it. -/
  refusesLater : Canceled canceled h → placed d.state.production = [] → ∀ i request,
    .offers i request ∈ d.waiting ∨ .queues i request ∈ d.waiting →
      ∃ d', Course p d [.moves, .refuses i] d'
  /-- The submission of a straggler had looked before. -/
  late : ∀ before after, h = before ++ after → Canceled canceled before →
    ∀ k ∈ accepted after, .looks k ∈ before ∧ k ∉ accepted before
  /-- Whoever gets the worker of a unit that fails had looked before that one canceled the
  dispatcher. -/
  seats : ∀ seat, Seats seat h → ∀ before k after, h = before ++ .accepts k :: after →
    ∀ i ∈ accepted before, Failed h i → seat i = seat k →
      ∃ early late, before = early ++ .stops i :: late ∧ .looks k ∈ early
  /-- Without stragglers, nobody gets the worker of a unit that fails. -/
  vacant : (∀ k, ¬Straggler canceled h k) → ∀ seat, Seats seat h →
    ∀ before k after, h = before ++ .accepts k :: after →
      ∀ i ∈ accepted before, Failed h i → seat i ≠ seat k
  /-- If all units are waited for, they have ended and left when the wait is over, ... -/
  finished : Returns p d.state → ∀ i ∈ accepted h, i ∈ left h ∧ ∃ result, results h i = [result]
  /-- ... and then there has been a failure where the hook was called, once, ... -/
  called : Returns p d.state → (d.state.failed ↔ ∃ f, hooked h = [f])
  /-- ... and that is where some unit has failed. -/
  caused : Returns p d.state → (d.state.failed ↔ ∃ i, Failed h i)

/-! ## The hook -/

theorem exists_job_of_workAt {work : Work} (hwork : s.workAt i = some work) :
    ∃ j : Job, s.job? i = some j ∧ j.index = i ∧ j.work = work := by
  obtain ⟨j, hj, hjwork⟩ := Option.map_eq_some_iff.1 hwork
  exact ⟨j, hj, State.job?_index hj, hjwork⟩

/-- A unit that is about to call the hook can do so. -/
theorem exists_hooks {f : Failure} (hwork : d.state.workAt i = some (.reports f)) :
    ∃ d', Move p d (.hooks f) d' := by
  obtain ⟨j, hj, rfl, hjwork⟩ := exists_job_of_workAt hwork
  have hdeed : doneByJob p d.state j = .hooks f := by simp [doneByJob, hjwork]
  obtain ⟨s', hstep⟩ : ∃ s', step p d.state j = some s' := by simp [step, hjwork]
  refine ⟨{ d with state := s' }, ?_⟩
  rw [← hdeed]
  exact .advances hj hstep

/-- The first unit to report can do so, and is about to call the hook then. -/
theorem exists_reports {f : Failure} (hwork : d.state.workAt i = some (.fails f))
    (hfirst : d.state.failed = false) :
    ∃ d', Move p d (.reports i) d' ∧ d'.state.workAt i = some (.reports f) := by
  obtain ⟨j, hj, rfl, hjwork⟩ := exists_job_of_workAt hwork
  have hdeed : doneByJob p d.state j = .reports j.index := by simp [doneByJob, hjwork]
  have hstep : step p d.state j =
      some ({ d.state with failed := true }.setWork j.index (.reports f)) := by
    simp [step, hjwork, hfirst]
  refine ⟨{ d with state := { d.state with failed := true }.setWork j.index (.reports f) },
    ?_, ?_⟩
  · rw [← hdeed]
    exact .advances hj hstep
  · exact (State.workAt_setWork (s := { d.state with failed := true }) hj).trans (if_pos rfl)

namespace Books

theorem due (hb : Books canceled h d) (hfailed : ∃ i, Failed h i) (hnone : hooked h = []) :
    ∃ i f d', Course p d [.hooks f] d' ∨ Course p d [.reports i, .hooks f] d' := by
  obtain ⟨i, hfailed⟩ := hfailed
  cases hb.hook with
  | called _ _ hhooked => simp [hnone] at hhooked
  | due _ _ hwork =>
    obtain ⟨d', hhooks⟩ := exists_hooks hwork
    exact ⟨i, _, d', .inl (Path.nil.snoc hhooks)⟩
  | idle hreported =>
    have hfirst : d.state.failed = false := by
      simpa [hreported] using hb.flags.failed
    obtain ⟨f, hwork⟩ :=
      ((hb.records i).fails_or_reported hfailed).resolve_right (by simp [hreported])
    obtain ⟨d₁, hreports, hwork₁⟩ := exists_reports (p := p) hwork hfirst
    obtain ⟨d', hhooks⟩ := exists_hooks (p := p) hwork₁
    exact ⟨i, f, d', .inr ((Path.nil.snoc hreports).snoc hhooks)⟩

theorem first (hb : Books canceled h d) : hooked h = [] ∨
    ∃ i stop, (reported h).head? = some i ∧ results h i = [.error stop] ∧
      hooked h = [failureOf stop] := by
  cases hb.hook with
  | idle _ hhooked | due _ hhooked => exact .inl hhooked
  | @called i stop hfirst hresult hhooked =>
    refine .inr ⟨i, stop, hfirst, ?_, hhooked⟩
    obtain ⟨result, hsingle⟩ := List.length_eq_one_iff.1 <|
      Nat.le_antisymm (hb.records i).length_results_le (List.length_pos_of_mem hresult)
    rw [hsingle, List.mem_singleton] at hresult
    rw [hsingle, hresult]

end Books

/-! ## Cancellation -/

theorem Canceled.append (hc : Canceled canceled before) : Canceled canceled (before ++ after) :=
  hc.imp_right fun ⟨e, he, hcancels⟩ => ⟨e, List.mem_append_left _ he, hcancels⟩

/-- What looks at the dispatcher, or gets a worker, is a submission. -/
theorem Move.exists_submission {e : Deed} (hmove : Move p d e d')
    (he : e = .looks k ∨ e = .accepts k) : ∃ s', Submission p d.state e s' := by
  cases hmove with
  | executes hbusy hstep => exact ⟨_, Submission.of_produce hbusy hstep⟩
  | advances hj hstep =>
    have hunit := UnitStep.of_step hstep
    rcases he with he | he
    all_goals
      rw [he] at hunit
      cases hunit
  | submits | turns | ends | returns | cancels | moves => rcases he with he | he <;> cases he

/-- A submission that goes on has looked at a dispatcher that is not canceled. -/
theorem Move.open_of_looks (hmove : Move p d (.looks k) d') :
    ¬(d.state.stopped ∨ d.state.canceled) := by
  obtain ⟨s', hsubmission⟩ := hmove.exists_submission (.inl rfl)
  cases hsubmission with
  | looks _ hopen => exact hopen

/-- A unit is accepted whether the dispatcher is canceled or not. -/
theorem Move.claims_of_accepts (hmove : Move p d (.accepts k) d') :
    ∃ request, d.state.production = .claims k request := by
  obtain ⟨s', hsubmission⟩ := hmove.exists_submission (.inr rfl)
  cases hsubmission with
  | accepts hproduction => exact ⟨_, hproduction⟩

section

variable {scene : Scene σ}

/-- No submission looks at a canceled dispatcher and goes on. -/
theorem not_mem_of_canceled
    (hcourse : Course p { state := p.start scene canceled } (before ++ after) d)
    (hc : Canceled canceled before) : .looks k ∉ after := by
  intro hlooks
  obtain ⟨now, later, rfl⟩ := List.append_of_mem hlooks
  rw [← List.append_assoc] at hcourse
  obtain ⟨d₁, d₂, hbefore, hmove, -⟩ := hcourse.exists_cons
  refine hmove.open_of_looks ?_
  rw [(Books.of_course hbefore).flags.shut]
  exact hc.append

/-- The submission of a unit that is accepted has looked. -/
theorem mem_looks_of_accepts
    (hcourse : Course p { state := p.start scene canceled } (before ++ .accepts k :: after) d) :
    .looks k ∈ before := by
  obtain ⟨d₁, d₂, hbefore, hmove, -⟩ := hcourse.exists_cons
  obtain ⟨request, hproduction⟩ := hmove.claims_of_accepts
  exact (Books.of_course hbefore).views.looked k request (hproduction ▸ List.mem_cons_self)

/-- A unit is accepted by a canceled dispatcher only if its submission had looked before. -/
theorem looks_of_canceled
    (hcourse : Course p { state := p.start scene canceled } (before ++ after) d)
    (hc : Canceled canceled before) (hk : k ∈ accepted after) :
    .looks k ∈ before ∧ k ∉ accepted before := by
  obtain ⟨e, he, hek⟩ := List.mem_filterMap.1 hk
  have haccepts : .accepts k ∈ after := by
    cases e <;> cases hek
    exact he
  have hnew : (accepted before ++ accepted after).Nodup := by
    rw [← accepted_append]
    exact (List.nodup_append.1 (Books.of_course hcourse).roll.nodup).2.1
  refine ⟨?_, fun hold => (List.nodup_append.1 hnew).2.2 k hold k hk rfl⟩
  obtain ⟨now, later, rfl⟩ := List.append_of_mem haccepts
  have hnever : .looks k ∉ now ++ .accepts k :: later := not_mem_of_canceled hcourse hc
  rw [← List.append_assoc] at hcourse
  refine (List.mem_append.1 (mem_looks_of_accepts hcourse)).resolve_right fun hlate => ?_
  exact hnever (List.mem_append_left _ hlate)

end

theorem offered_of_looking {production : Production} {request : Request}
    (h : production = .offers i request ∨ production = .queues i request) :
    offered production = [i] := by
  rcases h with rfl | rfl <;> rfl

theorem refuses_of_shut {request : Request} (hshut : d.state.stopped ∨ d.state.canceled)
    (hproduction : d.state.production = .offers i request ∨
      d.state.production = .queues i request) :
    Move p d (.refuses i) { d with state := { d.state with production := .drains } } := by
  have hdeed : doneBySubmission p d.state = .refuses i := by
    rcases hproduction with hproduction | hproduction <;>
      simp [doneBySubmission, hproduction, hshut]
  have hstep : produce p d.state = some { d.state with production := .drains } := by
    rcases hproduction with hproduction | hproduction <;> simp [produce, hproduction, hshut]
  have hbusy : ¬Idle d.state.production := fun hidle => by
    have hoffered := offered_of_looking hproduction
    simp [offered_of_idle hidle] at hoffered
  exact hdeed ▸ .executes hbusy hstep

theorem exists_refuses {request : Request} (hshut : d.state.stopped ∨ d.state.canceled)
    (hfree : placed d.state.production = [])
    (hmem : .offers i request ∈ d.waiting ∨ .queues i request ∈ d.waiting) :
    ∃ d', Course p d [.moves, .refuses i] d' := by
  obtain ⟨next, hmem, hnext⟩ : ∃ next ∈ d.waiting,
      next = .offers i request ∨ next = .queues i request := by
    rcases hmem with hmem | hmem
    · exact ⟨_, hmem, .inl rfl⟩
    · exact ⟨_, hmem, .inr rfl⟩
  obtain ⟨former, latter, hsplit⟩ := List.append_of_mem hmem
  have hturns := Move.turns (p := p) hfree (.trans (.of_eq hsplit) List.perm_middle)
  exact ⟨_, .cons hturns (.cons (refuses_of_shut hshut hnext) .nil)⟩

/-- A unit that fails has canceled the dispatcher if it has left before another one is accepted. -/
theorem stops_of_left {scene : Scene σ}
    (hcourse : Course p { state := p.start scene canceled } (before ++ .accepts k :: after) d)
    (hfailed : Failed (before ++ .accepts k :: after) i) (hleft : i ∈ left before) :
    .stops i ∈ before := by
  obtain ⟨d₁, d₂, hbefore, -, -⟩ := hcourse.exists_cons
  have hle := ((Books.of_course hcourse).records i).length_results_le
  -- it has done all that it does by then, which for a failure is to cancel the dispatcher
  cases ((Books.of_course hbefore).records i).done hleft with
  | well hresult =>
    obtain ⟨stop, hstop⟩ := hfailed
    -- a unit that has ended well does not end again
    rw [results_append, hresult] at hle hstop
    have hrest : results (.accepts k :: after) i = [] :=
      List.eq_nil_of_length_eq_zero (by simpa using hle)
    simp [hrest] at hstop
  | badly _ _ hstopped => exact hstopped

/-- Whoever gets the worker of a unit that fails had looked before the dispatcher was canceled. -/
theorem looks_of_seat {scene : Scene σ} {seat : Nat → Nat}
    (hcourse : Course p { state := p.start scene canceled } (before ++ .accepts k :: after) d)
    (hseats : Seats seat (before ++ .accepts k :: after)) (hi : i ∈ accepted before)
    (hfailed : Failed (before ++ .accepts k :: after) i) (hseat : seat i = seat k) :
    ∃ early late, before = early ++ .stops i :: late ∧ .looks k ∈ early := by
  have hleft : i ∈ left before :=
    Decidable.of_not_not fun hstays => hseats before k after rfl i hi hstays hseat
  obtain ⟨early, late, rfl⟩ := List.append_of_mem (stops_of_left hcourse hfailed hleft)
  refine ⟨early, late, rfl, ?_⟩
  have hstopped : Canceled canceled (early ++ [.stops i]) := .inr ⟨.stops i, by simp, trivial⟩
  have hsplit : early ++ .stops i :: late ++ .accepts k :: after =
      (early ++ [.stops i]) ++ (late ++ .accepts k :: after) := by simp
  rw [hsplit] at hcourse
  have hlooks := (looks_of_canceled hcourse hstopped (k := k) (by simp [accepted])).1
  simpa using hlooks

/-! ## Waiting for all units -/

theorem Returns.jobs (hreturns : Returns p s) : s.jobs = [] := by
  obtain ⟨-, hsome⟩ := hreturns
  simp only [produce] at hsome
  split at hsome
  · next hempty => exact List.isEmpty_iff.1 hempty
  · cases hsome

namespace Books

/-- Every unit that was accepted has left. -/
theorem mem_left (hb : Books canceled h d) (hreturns : Returns p d.state) (hi : i ∈ accepted h) :
    i ∈ left h := by
  have hpresent := hb.roll.present
  unfold holding at hpresent
  rw [hreturns.1, hreturns.jobs] at hpresent
  exact hpresent.mem_iff.2 hi

theorem finished (hb : Books canceled h d) (hreturns : Returns p d.state) (hi : i ∈ accepted h) :
    i ∈ left h ∧ ∃ result, results h i = [result] := by
  have hleft := hb.mem_left hreturns hi
  refine ⟨hleft, ?_⟩
  cases (hb.records i).done hleft with
  | well hresult | badly hresult => exact ⟨_, hresult⟩

theorem called (hb : Books canceled h d) (hreturns : Returns p d.state) :
    d.state.failed ↔ ∃ f, hooked h = [f] := by
  rw [hb.flags.failed]
  cases hb.hook with
  | idle hreported hhooked => simp [hreported, hhooked]
  | due _ _ hwork => simp [State.workAt, State.job?, hreturns.jobs] at hwork
  | @called i stop hfirst _ hhooked =>
    have hne : reported h ≠ [] := List.ne_nil_of_mem (List.mem_of_head? hfirst)
    simp [hne, hhooked]

theorem caused (hb : Books canceled h d) (hreturns : Returns p d.state) :
    d.state.failed ↔ ∃ i, Failed h i := by
  constructor
  · intro hfailed
    obtain ⟨f, hf⟩ := (hb.called hreturns).1 hfailed
    rcases hb.first with hnone | ⟨i, stop, -, hresult, -⟩
    · simp [hnone] at hf
    · exact ⟨i, stop, by simp [hresult]⟩
  · rintro ⟨i, hfailed⟩
    rw [hb.flags.failed]
    rcases (hb.records i).fails_or_reported hfailed with ⟨f, hwork⟩ | hreported
    · simp [State.workAt, State.job?, hreturns.jobs] at hwork
    · exact List.ne_nil_of_mem hreported

end Books

/-- A dispatcher keeps its promises in every course, whatever its plan and its units are. -/
theorem failure_protocol {scene : Scene σ}
    (hcourse : Course p { state := p.start scene canceled } h d) :
    FailureProtocol p canceled h d where
  first := (Books.of_course hcourse).first
  due := (Books.of_course hcourse).due
  shut := by
    rintro before after rfl hc k
    exact not_mem_of_canceled hcourse hc
  refuses hc _ _ hproduction :=
    refuses_of_shut ((Books.of_course hcourse).flags.shut.2 hc) hproduction
  refusesLater hc hfree _ _ hmem :=
    exists_refuses ((Books.of_course hcourse).flags.shut.2 hc) hfree hmem
  late := by
    rintro before after rfl hc k hk
    exact looks_of_canceled hcourse hc hk
  seats := by
    rintro seat hseats before k after rfl i hi hfailed hseat
    exact looks_of_seat hcourse hseats hi hfailed hseat
  vacant := by
    rintro hkeeps seat hseats before k after rfl i hi hfailed hseat
    obtain ⟨early, late, rfl, -⟩ := looks_of_seat hcourse hseats hi hfailed hseat
    exact hkeeps k ⟨_, _, rfl, .inr ⟨.stops i, by simp, trivial⟩, by simp [accepted]⟩
  finished hreturns _ := (Books.of_course hcourse).finished hreturns
  called := (Books.of_course hcourse).called
  caused := (Books.of_course hcourse).caused

/-- A batch with two workers. -/
def duo : Plan Unit where
  batch := {
    client := {
      base := none
      transport := fun _ _ w => (⟨0, .ok ⟨200, none, {}, none, none⟩⟩, w)
      retryStatuses := []
      backoff := 0
      headers := {}
      contentType := ""
      tracing := {} }
    workers := 2 }
  producer := fun _ w => (.ok none, w)

/-- What the units of `duo` are to ask for. -/
def plain : Request :=
  { target := "mem:a" }

/-- Two units fail while a third one waits for a worker. The second one crashes, and is the first
to report. The first one finds the flag set and cancels the dispatcher, before the hook is called
for the other. -/
def overtaken : List Deed :=
  [.submits 0, .submits 1, .submits 2, .moves, .looks 0, .accepts 0, .begins 0, .moves, .looks 1,
    .accepts 1, .begins 1, .moves, .looks 2, .moves, .ends 0 (.error (.error .canceled)),
    .ends 1 (.error (.crash (.ofText "overtaken"))),
    .reports 1, .reports 0, .stops 0, .leaves 0, .refuses 2, .hooks (.crashed "overtaken"),
    .stops 1, .leaves 1, .returns]

theorem failure_protocol_overtaken :
    let start : Desk Unit := { state := duo.start { clock := ⟨0, 0⟩, world := () } false }
    ∃ d, Course duo start overtaken d ∧ FailureProtocol duo false overtaken d ∧
      d.state.failed ∧ hooked overtaken = [.crashed "overtaken"] := by
  intro start
  have hcourse : ∃ d, Course duo start overtaken d ∧ d.state.failed :=
    ⟨_, .cons (.submits plain) <| .cons (.submits plain) <|
      .cons (.submits plain) <| .cons (.turns rfl .rfl) <|
      .cons (.executes id rfl) <| .cons (.executes id rfl) <| .cons (.executes id rfl) <|
      .cons (.turns rfl .rfl) <|
      .cons (.executes id rfl) <| .cons (.executes id rfl) <| .cons (.executes id rfl) <|
      .cons (.turns rfl .rfl) <|
      .cons (.executes id rfl) <| .cons (.executes id rfl) <|
      .cons (.ends (j := ⟨0, plain, 0, .begins⟩) rfl trivial _) <|
      .cons (.ends (j := ⟨1, plain, 0, .begins⟩) rfl trivial _) <|
      .cons (.advances (j := ⟨1, plain, 0, .fails (.crashed "overtaken")⟩) rfl rfl) <|
      .cons (.advances (j := ⟨0, plain, 0, .fails .canceled⟩) rfl rfl) <|
      .cons (.advances (j := ⟨0, plain, 0, .stops⟩) rfl rfl) <|
      .cons (.advances (j := ⟨0, plain, 0, .leaves⟩) rfl rfl) <|
      .cons (.executes id rfl) <|
      .cons (.advances (j := ⟨1, plain, 0, .reports (.crashed "overtaken")⟩) rfl rfl) <|
      .cons (.advances (j := ⟨1, plain, 0, .stops⟩) rfl rfl) <|
      .cons (.advances (j := ⟨1, plain, 0, .leaves⟩) rfl rfl) <|
      .cons (.returns ⟨rfl, rfl⟩) .nil, rfl⟩
  obtain ⟨d, hcourse, hfailed⟩ := hcourse
  exact ⟨d, hcourse, failure_protocol hcourse, hfailed, rfl⟩

/-- The batch `duo` with one of its workers. -/
def lone : Plan Unit :=
  { duo with batch := { duo.batch with workers := 1 } }

/-- A submission has looked. The only unit fails then, cancels the dispatcher and leaves the only
worker. -/
def failing : List Deed :=
  [.submits 0, .submits 1, .moves, .looks 0, .accepts 0, .begins 0, .moves, .looks 1,
    .ends 0 (.error (.error .canceled)), .reports 0, .hooks .canceled, .stops 0, .leaves 0]

/-- The other unit is accepted after that. -/
def straggling : List Deed :=
  failing ++ [.accepts 1]

/-- A straggler gets the worker of the unit that failed. -/
theorem exists_straggler :
    let start : Desk Unit := { state := lone.start { clock := ⟨0, 0⟩, world := () } false }
    ∃ d, Course lone start straggling d ∧ Canceled false failing ∧
      Straggler false straggling 1 ∧ 0 ∈ accepted failing ∧ Failed failing 0 ∧
      Seats (fun _ => 0) straggling := by
  intro start
  have hcourse : ∃ d, Course lone start straggling d :=
    ⟨_, .cons (.submits plain) <| .cons (.submits plain) <| .cons (.turns rfl .rfl) <|
      .cons (.executes id rfl) <| .cons (.executes id rfl) <| .cons (.executes id rfl) <|
      .cons (.turns rfl .rfl) <| .cons (.executes id rfl) <|
      .cons (.ends (j := ⟨0, plain, 0, .begins⟩) rfl trivial _) <|
      .cons (.advances (j := ⟨0, plain, 0, .fails .canceled⟩) rfl rfl) <|
      .cons (.advances (j := ⟨0, plain, 0, .reports .canceled⟩) rfl rfl) <|
      .cons (.advances (j := ⟨0, plain, 0, .stops⟩) rfl rfl) <|
      .cons (.advances (j := ⟨0, plain, 0, .leaves⟩) rfl rfl) <|
      .cons (.executes id rfl) .nil⟩
  obtain ⟨d, hcourse⟩ := hcourse
  have hcanceled : Canceled false failing := .inr ⟨.stops 0, by decide, trivial⟩
  refine ⟨d, hcourse, hcanceled, ⟨failing, [.accepts 1], rfl, hcanceled, by decide⟩, by decide,
    ⟨.error .canceled, by decide⟩, ?_⟩
  intro before k after hsplit i hi hstays
  have hbefore : before = straggling.take before.length := by rw [hsplit]; simp
  have hnext : straggling[before.length]? = some (.accepts k) := by
    rw [hsplit]
    simp
  -- whoever was accepted before somebody else has left
  have hleft : ∀ n < 14, (straggling[n]?).any (fun e => !(accepted [e]).isEmpty) →
      ∀ i ∈ accepted (straggling.take n), i ∈ left (straggling.take n) := by
    decide
  generalize before.length = n at hbefore hnext
  subst hbefore
  have hn : n < 14 := (List.getElem?_eq_some_iff.1 hnext).1
  exact absurd (hleft n hn (by rw [hnext]; rfl) i hi) hstays

end Courier.Batch.Dispatch
