import Courier.Proofs.Batch.Progress

/-!
# The results of a batch

Whatever the order in which production, the jobs and the reader take their steps, collecting the
results of a batch gives every response that there is to give, in order, or the cause of a real
failure (`collect_results`). If nothing failed, that is one response for each request, its own or
the one that the handler gave for it, less those that the handler dropped.
-/

namespace Courier.Batch

variable {σ : Type} {p : Plan σ} {h : List Happening} {i n : Nat} {s : State σ}
  {taken : List Outcome}

namespace Ledger

/-- The requests have come to an end at one index at most, which is the number of the jobs. -/
theorem eq_of_exhausted {m : Nat} (hl : Ledger p h s taken n) (hm : Exhausted h m) :
    m = n ∧ ∀ k f, .asked k (.error f) ∉ h := by
  obtain ⟨last, hasked⟩ := hl.asking.exists_asked
  rcases hasked m _ hm with ⟨-, request, hrequest⟩ | ⟨rfl, hlast⟩
  · cases hrequest
  · refine ⟨rfl, fun k f hk => ?_⟩
    rcases hasked k _ hk with ⟨-, request, hrequest⟩ | ⟨-, hlast'⟩
    · cases hrequest
    · rw [← hlast'] at hlast
      cases hlast

/-- There is no cause to fail if the requests have come to an end and all jobs have settled. -/
theorem not_cause {m : Nat} {f : Failure} (hl : Ledger p h s taken n) (hm : Exhausted h m)
    (hsettled : ∀ i < m, ∃ response, Settles h i response) : ¬Cause p h f := by
  obtain ⟨rfl, hnone⟩ := hl.eq_of_exhausted hm
  intro hcause
  cases hcause with
  | @job i f hfails =>
    obtain ⟨response, hsettles⟩ := hsettled i (hl.stories.lt_of_fails hfails)
    exact hsettles.not_fails (fun hhandler => hl.stories.unhandled hhandler i) hfails
  | production hasked => exact hnone _ _ hasked

/-- An outlet fails for a real cause. -/
theorem cause_of_next {f : Failure} {outlet : Outlet Outcome} (hl : Ledger p h s taken n)
    (hnext : s.outlet.next = some (.error f, outlet)) : Cause p h f := by
  unfold Outlet.next at hnext
  split at hnext
  · next hcanceled =>
    obtain ⟨g, hg, hcause⟩ := hl.cause hcanceled
    rw [hg] at hnext
    cases hnext
    exact hcause
  · split at hnext
    · cases hnext
    · split at hnext <;> cases hnext

/-- No one is left who may write to the outlet. -/
theorem over_of_writers (hl : Ledger p h s taken n) (hwriters : s.outlet.writers = 0) :
    s.jobs = [] ∧ s.production = .over := by
  have hcount := hl.writers
  rw [hwriters] at hcount
  refine ⟨List.length_eq_zero_iff.1 (by omega), ?_⟩
  match hproduction : s.production with
  | .over => rfl
  | .checks _ | .asks _ | .offers _ _ | .claims _ _ | .queues _ _ | .adds _ _ | .drains =>
    rw [hproduction] at hcount
    simp only [Production.writers] at hcount
    omega

/-- Where nobody is left to report a failure, and none was reported, there was none. -/
theorem not_failed (hl : Ledger p h s taken n) (hwork : ∀ i, s.workAt i = none)
    (hcanceled : ¬s.outlet.canceled) : ¬s.failed := by
  intro hf
  rcases hl.reported hf with hc | ⟨i, f, hi⟩
  · exact hcanceled hc
  · rw [hwork] at hi
    cases hi

/-- When production is over without a failure, the requests have come to their end. -/
theorem exhausted_of_over (hl : Ledger p h s taken n) (hover : s.production = .over)
    (hcanceled : ¬s.outlet.canceled) (hfailed : ¬s.failed) : Exhausted h n := by
  have hasking := hl.asking
  unfold Asking at hasking
  rw [hover] at hasking
  obtain ⟨last, -, hend | hc | hf⟩ := hasking
  · exact hend.2
  · exact absurd hc hcanceled
  · exact absurd hf hfailed

/-- When an outlet has come to its end, all jobs have settled and all responses were read. -/
theorem settled_of_next {outlet : Outlet Outcome} (hl : Ledger p h s taken n)
    (hnext : s.outlet.next = some (.ok none, outlet)) :
    Exhausted h n ∧ (∀ i < n, ∃ response, Settles h i response ∧
      responsesOf taken i = response.toList) ∧ ∀ i, n ≤ i → responsesOf taken i = [] := by
  unfold Outlet.next at hnext
  split at hnext
  · cases hnext
  next hcanceled =>
  split at hnext
  · cases hnext
  next hbuffer =>
  split at hnext
  case isFalse => cases hnext
  next hwriters =>
  obtain ⟨hjobs, hover⟩ := hl.over_of_writers hwriters
  have hwork (i : Nat) : s.workAt i = none := by simp [State.workAt, State.job?, hjobs]
  have hfailed := hl.not_failed hwork hcanceled
  have hstories := hl.stories
  rw [hbuffer, List.append_nil] at hstories
  refine ⟨hl.exhausted_of_over hover hcanceled hfailed, fun i hi => ?_,
    fun i hi => (hstories.blank i hi).2.2.2⟩
  have hstory := hstories.told i hi
  rw [hwork] at hstory
  rcases hstory with hsettled | ⟨hf, -⟩
  · exact hsettled
  · exact absurd hf hfailed

/-- At the end of the outlet, the responses of the jobs are collected. -/
theorem collected_of_next {outlet : Outlet Outcome} (hl : Ledger p h s taken n)
    (hnext : s.outlet.next = some (.ok none, outlet)) :
    ∃ settled : Nat → Option Response, Exhausted h n ∧ (∀ i < n, Settles h i (settled i)) ∧
      collected (taken.map Except.ok) = .ok ((List.range n).filterMap settled) := by
  obtain ⟨hexhausted, hall, hnone⟩ := hl.settled_of_next hnext
  choose! settled hsettled hdelivered using hall
  refine ⟨settled, hexhausted, hsettled, collected_eq fun i => ?_⟩
  split
  · next hi => exact hdelivered i hi
  · next hi => exact hnone i (Nat.le_of_not_lt hi)

end Ledger

/-- The results of a batch are collected in full or not at all, in every run. The collector
gives back a list exactly if the requests came to an end and all jobs settled, and then the list
has their responses in the order of the requests. If it gives back a failure, a job or the
producer has failed with that. Before, somebody can always move, and if the requests come to an
end, the steps of a run are bounded. -/
theorem collect_results {s₀ : State σ} {scene : Scene σ} {c : Collection σ}
    (hlaunch : p.launch scene false = .ok s₀) (hworkers : 1 ≤ p.batch.workers)
    (hproducer : ∀ i world crash, (p.producer i world).1 ≠ .error (.crash crash))
    (hrun : Run p s₀ h c) :
    (∀ result, c.result? = some result →
      ((∃ responses, result = .ok responses) ↔
        ∃ n, Exhausted h n ∧ ∀ i < n, ∃ response, Settles h i response) ∧
      (∀ responses, result = .ok responses →
        ∃ (n : Nat) (settled : Nat → Option Response), Exhausted h n ∧
          (∀ i < n, Settles h i (settled i)) ∧
          responses = (List.range n).filterMap settled) ∧
      (∀ f, result = .error f → Cause p h f)) ∧
    (c.result? = none →
      ∃ t, c.state.scene.clock.now ≤ t ∧ ∃ e c', Turn p (c.later t) e c' ∧ e.isStep) ∧
    (∀ bound, p.EndsAt bound → steps h ≤ stepsPerJob * bound + 5) := by
  have hledger := Ledger.of_run hlaunch hproducer hrun
  refine ⟨fun result hresult => ?_, fun hresult => ?_, fun bound hends => ?_⟩
  · match hending : c.ending with
    | none => simp [Collection.result?, hending] at hresult
    | some none =>
      rw [hending] at hledger
      obtain ⟨s, n, outlet, hl, hnext⟩ := hledger
      obtain ⟨settled, hexhausted, hsettled, hcollected⟩ := hl.collected_of_next hnext
      obtain rfl : result = .ok ((List.range n).filterMap settled) := by
        simp only [Collection.result?, hending, Option.map_some, Option.some.injEq] at hresult
        rw [← hresult, Option.toList_none, List.map_nil, List.append_nil, hcollected]
      refine ⟨⟨fun _ => ⟨n, hexhausted, fun i hi => ⟨_, hsettled i hi⟩⟩, fun _ => ⟨_, rfl⟩⟩, ?_, ?_⟩
      · rintro responses hresponses
        cases hresponses
        exact ⟨n, settled, hexhausted, hsettled, rfl⟩
      · rintro f hf
        cases hf
    | some (some f) =>
      rw [hending] at hledger
      obtain ⟨s, n, outlet, hl, hnext⟩ := hledger
      have hcause := hl.cause_of_next hnext
      obtain rfl : result = .error f := by
        simp only [Collection.result?, hending, Option.map_some, Option.some.injEq] at hresult
        rw [← hresult]
        exact collected_error _ _
      refine ⟨⟨?_, ?_⟩, ?_, ?_⟩
      · rintro ⟨responses, hresponses⟩
        cases hresponses
      · rintro ⟨m, hexhausted, hsettled⟩
        exact absurd hcause (hl.not_cause hexhausted hsettled)
      · rintro responses hresponses
        cases hresponses
      · rintro g hg
        cases hg
        exact hcause
  · have hrunning : c.ending = none := by simpa [Collection.result?] using hresult
    rw [hrunning] at hledger
    obtain ⟨n, hl⟩ := hledger
    exact hl.exists_turn hworkers
  · have hsteps := (steps_add_rank_le hlaunch hends hrun).2
    rw [rank_launch hlaunch] at hsteps
    omega

/-- A batch of two requests. The transport fails the first that is sent, and the handler has a
response for it. -/
def relay : Plan Nat where
  batch := {
    client := {
      base := none
      transport := fun _ _ n =>
        (⟨0, if n = 0 then .error false else .ok ⟨200, none, {}, none, none⟩⟩, n + 1)
      retryStatuses := []
      backoff := 0
      headers := {}
      contentType := ""
      tracing := {} }
    workers := 2
    handler := some fun _ n => (.ok (some ⟨201, none, {}, none, none⟩), n) }
  producer := .ofList [{ target := "mem:a" }, { target := "mem:b" }]

/-- Both jobs are added before one moves, and the second is done before the first. -/
def relayed : List Choice :=
  List.replicate 10 .produces ++
    [.advances 0, .advances 1, .advances 1, .advances 1, .advances 1, .produces, .reads,
      .advances 0, .advances 0, .advances 0, .advances 0, .produces, .advances 0, .advances 1,
      .produces, .reads, .reads]

theorem collect_results_relay :
    let scene : Scene Nat := { clock := ⟨0, 0⟩, world := 0 }
    ∃ s₀ h c responses, relay.launch scene false = .ok s₀ ∧ Run relay s₀ h c ∧
      c.taken.map Outcome.index = [1, 0] ∧ c.result? = some (.ok responses) ∧
      (∃ (n : Nat) (settled : Nat → Option Response), Exhausted h n ∧
        (∀ i < n, Settles h i (settled i)) ∧ responses = (List.range n).filterMap settled) ∧
      steps h ≤ stepsPerJob * 2 + 5 := by
  intro scene
  have hlaunch : relay.launch scene false = .ok (relay.start scene false) := if_pos (by decide)
  have hproducer (i : Nat) (world : Nat) (crash : Crash) :
      (relay.producer i world).1 ≠ .error (.crash crash) := by simp [relay, Producer.ofList]
  have hends : relay.EndsAt 2 := fun i world request hi => by
    obtain ⟨k, rfl⟩ := Nat.exists_eq_add_of_le hi
    simp [relay, Producer.ofList, Nat.add_comm 2 k]
  have hshown : (play relay relayed [] { state := relay.start scene false }).map
      (fun (_, c) => (c.ending, c.taken.map Outcome.index)) = some (some none, [1, 0]) := by
    decide +kernel
  obtain ⟨⟨h, c⟩, hplay, hc⟩ := Option.map_eq_some_iff.1 hshown
  obtain ⟨hending, htaken⟩ := Prod.mk.inj hc
  have hrun := Run.start.play relayed hplay
  obtain ⟨hresults, -, hbound⟩ := collect_results hlaunch (by decide) hproducer hrun
  obtain ⟨responses, hresult⟩ : ∃ responses, c.result? = some (.ok responses) := by
    simpa [Collection.result?, hending] using exists_collected c.taken
  exact ⟨_, h, c, responses, hlaunch, hrun, htaken, hresult,
    (hresults _ hresult).2.1 responses rfl, hbound 2 hends⟩

end Courier.Batch
