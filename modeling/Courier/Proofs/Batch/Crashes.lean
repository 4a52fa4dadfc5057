import Courier.Proofs.Batch.Results

/-!
# Crashes in a batch

A job crashes when its call does, or the handler that is asked about its failure
(`Batch.JobCrashed`). Its batch catches the crash, and the results end with a failure : no
collector gets a list after that, and unless another failure comes first, a step or two of the job
and one of the reader are all that is needed. A crash of the producer is not caught. Production is
over then as it is when there are no more requests, and the results may end well without those of
that index and later ones (`Batch.collect_crashed`, `Batch.crash_unnoticed`).
-/

namespace Courier.Batch

variable {σ : Type} {p : Plan σ} {h : List Happening} {i n : Nat} {s s' s₀ : State σ}
  {c : Collection σ} {taken : List Outcome}

/-- A job crashed, in its call or in the handler that was asked about its failure. -/
inductive JobCrashed (h : List Happening) (index : Nat) : Prop where
  | called {crash : Crash} (hcall : .called index (.error (.crash crash)) ∈ h) :
      JobCrashed h index
  | handled {f : Failure} {crash : Crash}
      (hhandled : .handled index f (.error (.crash crash)) ∈ h) : JobCrashed h index

/-- The producer crashed at an index. -/
def ProducerCrashed (h : List Happening) (index : Nat) : Prop :=
  ∃ crash, .asked index (.error (.crash crash)) ∈ h

/-- Nothing but crashes of jobs ends the results with a failure. -/
def OnlyCrashes (p : Plan σ) (h : List Happening) : Prop :=
  ∀ f, Cause p h f → ∃ text, f = .crashed text

/-! ## What a batch sees of a history -/

theorem callsOf_map_seen (h : List Happening) (i : Nat) :
    callsOf (h.map Happening.seen) i = callsOf h i := by
  unfold callsOf
  rw [List.filterMap_map]
  congr 1
  funext e
  rcases e with ⟨_, (_ | _) | _⟩ | _ | _ | _ | _ <;> rfl

theorem handledOf_map_seen (h : List Happening) (i : Nat) :
    handledOf (h.map Happening.seen) i = handledOf h i := by
  unfold handledOf
  rw [List.filterMap_map]
  congr 1
  funext e
  rcases e with ⟨_, (_ | _) | _⟩ | _ | _ | _ | _ <;> rfl

theorem jobCrashed_iff :
    JobCrashed h i ↔ (∃ crash, .error (.crash crash) ∈ callsOf h i) ∨
      ∃ f crash, (f, .error (.crash crash)) ∈ handledOf h i := by
  simp only [mem_callsOf, mem_handledOf]
  constructor
  · rintro (hcall | hhandled)
    · exact .inl ⟨_, hcall⟩
    · exact .inr ⟨_, _, hhandled⟩
  · rintro (⟨crash, hcall⟩ | ⟨f, crash, hhandled⟩)
    · exact .called hcall
    · exact .handled hhandled

/-- The crashes of jobs are seen. -/
theorem jobCrashed_map_seen : JobCrashed (h.map Happening.seen) i ↔ JobCrashed h i := by
  simp only [jobCrashed_iff, callsOf_map_seen, handledOf_map_seen]

theorem settles_map_seen {response : Option Response} :
    Settles (h.map Happening.seen) i response ↔ Settles h i response :=
  ⟨fun hs => hs.congr (callsOf_map_seen h i).symm (handledOf_map_seen h i).symm,
    fun hs => hs.congr (callsOf_map_seen h i) (handledOf_map_seen h i)⟩

/-- The crash of a producer is seen as the end of its requests. -/
theorem exhausted_map_seen :
    Exhausted (h.map Happening.seen) n ↔ Exhausted h n ∨ ProducerCrashed h n := by
  unfold Exhausted ProducerCrashed
  rw [List.mem_map]
  constructor
  · rintro ⟨e, he, hseen⟩
    rcases e with ⟨k, (f | crash) | answer⟩ | _ | _ | _ | _ <;> cases hseen
    · exact .inr ⟨crash, he⟩
    · exact .inl he
  · rintro (hmem | ⟨crash, hmem⟩)
    · exact ⟨_, hmem, rfl⟩
    · exact ⟨_, hmem, rfl⟩

theorem Fails.congr {h' : List Happening} {f : Failure} (hf : Fails p h i f)
    (hc : callsOf h' i = callsOf h i) (hh : handledOf h' i = handledOf h i) : Fails p h' i f := by
  have hcalled {answer : Answer Failure Response} (hmem : .called i answer ∈ h) :
      .called i answer ∈ h' := mem_callsOf.1 (hc ▸ mem_callsOf.2 hmem)
  have hhandled {f : Failure} {answer : Answer Failure (Option Response)}
      (hmem : .handled i f answer ∈ h) : .handled i f answer ∈ h' :=
    mem_handledOf.1 (hh ▸ mem_handledOf.2 hmem)
  cases hf with
  | unhandled hhandler hcall => exact .unhandled hhandler (hcalled hcall)
  | handler hcall hanswer => exact .handler (hcalled hcall) (hhandled hanswer)
  | crashed hcall => exact .crashed (hcalled hcall)
  | handlerCrashed hcall hanswer => exact .handlerCrashed (hcalled hcall) (hhandled hanswer)

theorem fails_map_seen {f : Failure} : Fails p (h.map Happening.seen) i f ↔ Fails p h i f :=
  ⟨fun hf => hf.congr (callsOf_map_seen h i).symm (handledOf_map_seen h i).symm,
    fun hf => hf.congr (callsOf_map_seen h i) (handledOf_map_seen h i)⟩

/-- The failures that end the results are seen. -/
theorem cause_map_seen {f : Failure} : Cause p (h.map Happening.seen) f ↔ Cause p h f := by
  constructor
  · rintro (hfails | hasked)
    · exact .job (fails_map_seen.1 hfails)
    · obtain ⟨e, he, hseen⟩ := List.mem_map.1 hasked
      rcases e with ⟨k, (f | crash) | answer⟩ | _ | _ | _ | _ <;> cases hseen
      exact .production he
  · rintro (hfails | hasked)
    · exact .job (fails_map_seen.2 hfails)
    · exact .production (List.mem_map.2 ⟨_, hasked, rfl⟩)

/-! ## A crash of a job -/

theorem Settles.not_crashed {response : Option Response} (hs : Settles h i response) :
    ¬JobCrashed h i := by
  rw [jobCrashed_iff]
  cases hs with
  | answered hcall hhandled | recovered hcall hhandled => simp [hcall, hhandled]

/-- Among failures that end the results, crashes are those of jobs. -/
theorem Cause.crashed {text : String} (hcause : Cause p h (.crashed text)) :
    ∃ i, JobCrashed h i := by
  obtain ⟨hfails⟩ := hcause
  cases hfails with
  | crashed hcall => exact ⟨_, .called hcall⟩
  | handlerCrashed _ hhandled => exact ⟨_, .handled hhandled⟩

namespace Ledger

/-- Nobody has crashed where the results have come to their end. -/
theorem not_crashed_of_next {outlet : Outlet Outcome} (hl : Ledger p h s taken n)
    (hnext : s.outlet.next = some (.ok none, outlet)) : ¬JobCrashed h i := by
  obtain ⟨-, hsettled, -⟩ := hl.settled_of_next hnext
  by_cases hi : i < n
  · obtain ⟨response, hsettles, -⟩ := hsettled i hi
    exact hsettles.not_crashed
  · have hblank := hl.stories.blank i (Nat.le_of_not_lt hi)
    simp [jobCrashed_iff, hblank.2.1, hblank.2.2.1]

/-- After a crash a job is about to fail, or has failed, and the batch with it. -/
theorem fails_of_crashed (hl : Ledger p h s taken n) (hcrashed : JobCrashed h i) :
    s.failed ∨ ∃ f, s.workAt i = some (.fails f) := by
  have hsome := jobCrashed_iff.1 hcrashed
  have hi : i < n := Nat.lt_of_not_le fun hi => by
    have hblank := hl.stories.blank i hi
    simp [hblank.2.1, hblank.2.2.1] at hsome
  have hstory := hl.stories.told i hi
  match hwork : s.workAt i with
  | some .begins | some (.calls ..) | some (.handles _) =>
    rw [hwork] at hstory
    simp [hstory.1, hstory.2.1] at hsome
  | some (.answers _) | some (.delivers _) =>
    rw [hwork] at hstory
    exact absurd hcrashed hstory.1.not_crashed
  | some (.fails f) => exact .inr ⟨f, rfl⟩
  | some (.reports _) =>
    rw [hwork] at hstory
    exact .inl hstory.2.1
  | some .stops =>
    rw [hwork] at hstory
    exact .inl hstory.1
  | some .leaves | none =>
    rw [hwork] at hstory
    rcases hstory with ⟨response, hsettles, -⟩ | ⟨hfailed, -⟩
    · exact absurd hcrashed hsettles.not_crashed
    · exact .inl hfailed

end Ledger

/-! ## From a crash to the end -/

namespace Run

/-- A reader reads the failure of an outlet that is canceled. -/
theorem exists_error_of_canceled (hrun : Run p s₀ h c) (hrunning : c.ending = none)
    (hcanceled : c.state.outlet.canceled) :
    ∃ c' f, Run p s₀ (h ++ [.moved]) c' ∧ c'.result? = some (.error f) := by
  have hnext : c.state.outlet.next = some (.error (c.state.outlet.cause.getD .canceled),
      { c.state.outlet with cause := none }) := if_pos hcanceled
  exact ⟨_, _, hrun.turn hrunning (.reads hnext), congrArg some (collected_error _ _)⟩

/-- A job that is about to report a failure does so, and the reader reads it. -/
theorem exists_error_of_reports {f : Failure} (hrun : Run p s₀ h c) (hrunning : c.ending = none)
    (hwork : c.state.workAt i = some (.reports f)) :
    ∃ h' c' f, Run p s₀ (h ++ h') c' ∧ h'.length ≤ 2 ∧ c'.result? = some (.error f) := by
  obtain ⟨j, hj, hreports⟩ := Option.map_eq_some_iff.1 hwork
  obtain rfl := State.job?_index hj
  obtain ⟨s', hstep, hcanceled⟩ : ∃ s', step p c.state j = some s' ∧ s'.outlet.canceled := by
    simp only [step, hreports, State.act_eq]
    exact ⟨_, rfl, c.state.outlet.canceled_cancel f⟩
  have hreported := hrun.turn hrunning (.advances hj hstep)
  obtain ⟨c', g, hrun', hresult⟩ := hreported.exists_error_of_canceled hrunning hcanceled
  rw [List.append_assoc] at hrun'
  exact ⟨_, c', g, hrun', Nat.le_refl _, hresult⟩

/-- A job that is about to fail reports its failure, if it is the first, and the reader reads a
failure. -/
theorem exists_error_of_crashed {scene : Scene σ} (hlaunch : p.launch scene false = .ok s₀)
    (hrun : Run p s₀ h c) (hrunning : c.ending = none) (hcrashed : JobCrashed h i) :
    ∃ h' c' f, Run p s₀ (h ++ h') c' ∧ h'.length ≤ 3 ∧ c'.result? = some (.error f) := by
  have hledger := Ledger.of_seen hlaunch hrun
  rw [hrunning] at hledger
  obtain ⟨n, hl⟩ := hledger
  cases hfailed : c.state.failed with
  | true =>
    rcases hl.reported hfailed with hcanceled | ⟨k, f, hk⟩
    · obtain ⟨c', f, hrun', hresult⟩ := hrun.exists_error_of_canceled hrunning hcanceled
      exact ⟨_, c', f, hrun', by decide, hresult⟩
    · obtain ⟨h', c', f, hrun', hle, hresult⟩ := hrun.exists_error_of_reports hrunning hk
      exact ⟨h', c', f, hrun', Nat.le_succ_of_le hle, hresult⟩
  | false =>
    rcases hl.fails_of_crashed (jobCrashed_map_seen.2 hcrashed) with hf | ⟨f, hwork⟩
    · simp [hfailed] at hf
    obtain ⟨j, hj, hfails⟩ := Option.map_eq_some_iff.1 hwork
    obtain rfl := State.job?_index hj
    obtain ⟨s', hstep, hreports⟩ :
        ∃ s', step p c.state j = some s' ∧ s'.workAt j.index = some (.reports f) := by
      simp only [step, hfails, hfailed, Bool.false_eq_true, if_false]
      exact ⟨_, rfl, (State.workAt_setWork hj).trans (if_pos rfl)⟩
    have hfirst := hrun.turn hrunning (.advances hj hstep)
    obtain ⟨h', c', g, hrun', hle, hresult⟩ := hfirst.exists_error_of_reports hrunning hreports
    rw [List.append_assoc] at hrun'
    refine ⟨_, c', g, hrun', ?_, hresult⟩
    rw [List.length_append, Nat.add_comm]
    exact Nat.succ_le_succ hle

end Run

/-! ## What is collected -/

/-- What is collected is what the outlet gave at the end of the results. -/
theorem Run.exists_ledger {scene : Scene σ} {result : Except Failure (List Response)}
    (hlaunch : p.launch scene false = .ok s₀) (hrun : Run p s₀ h c)
    (hresult : c.result? = some result) :
    ∃ s n outlet, Ledger p (h.map Happening.seen) s c.taken n ∧
      ((s.outlet.next = some (.ok none, outlet) ∧ result = collected (c.taken.map Except.ok)) ∨
        ∃ f, s.outlet.next = some (.error f, outlet) ∧ result = .error f) := by
  have hledger := Ledger.of_seen hlaunch hrun
  match hending : c.ending with
  | none => simp [Collection.result?, hending] at hresult
  | some none =>
    rw [hending] at hledger
    obtain ⟨s, n, outlet, hl, hnext⟩ := hledger
    refine ⟨s, n, outlet, hl, .inl ⟨hnext, ?_⟩⟩
    simpa [Collection.result?, hending] using hresult.symm
  | some (some f) =>
    rw [hending] at hledger
    obtain ⟨s, n, outlet, hl, hnext⟩ := hledger
    refine ⟨s, n, outlet, hl, .inr ⟨f, hnext, ?_⟩⟩
    simp only [Collection.result?, hending, Option.map_some, Option.some.injEq] at hresult
    rw [← hresult]
    exact collected_error _ _

/-- What is collected from a batch in which something crashes. After a crash of a job it is a
failure, and nobody can keep the collector from getting it : if the results have not ended, a step
or two of a job and one of the reader end them so. If nothing else ends the results with a failure,
a failure is collected exactly if a job crashed. A list is collected exactly if the producer came
to the end of its requests or crashed, and all jobs before have settled. -/
theorem collect_crashed {scene : Scene σ} (hlaunch : p.launch scene false = .ok s₀)
    (hrun : Run p s₀ h c) :
    (∀ result, c.result? = some result →
      ((∃ i, JobCrashed h i) → ∃ f, result = .error f) ∧
      (OnlyCrashes p h →
        ((∃ f, result = .error f) ↔ ∃ i, JobCrashed h i)) ∧
      ((∃ responses, result = .ok responses) ↔
        ∃ n, (Exhausted h n ∨ ProducerCrashed h n) ∧
          ∀ i < n, ∃ response, Settles h i response) ∧
      (∀ responses, result = .ok responses →
        ∃ (n : Nat) (settled : Nat → Option Response), (Exhausted h n ∨ ProducerCrashed h n) ∧
          (∀ i < n, Settles h i (settled i)) ∧
          responses = (List.range n).filterMap settled)) ∧
    (c.result? = none → (∃ i, JobCrashed h i) →
      ∃ h' c' f, Run p s₀ (h ++ h') c' ∧ h'.length ≤ 3 ∧ c'.result? = some (.error f)) := by
  refine ⟨fun result hresult => ?_, fun hresult ⟨i, hcrashed⟩ => ?_⟩
  · obtain ⟨s, n, outlet, hl, ⟨hnext, hcollected⟩ | ⟨f, hnext, rfl⟩⟩ :=
      hrun.exists_ledger hlaunch hresult
    · obtain ⟨settled, hexhausted, hsettled, hlist⟩ := hl.collected_of_next hnext
      obtain rfl : result = .ok ((List.range n).filterMap settled) := hcollected.trans hlist
      have hended := exhausted_map_seen.1 hexhausted
      have hsettles (i : Nat) (hi : i < n) := settles_map_seen.1 (hsettled i hi)
      have hsound : ¬∃ i, JobCrashed h i := fun ⟨i, hcrashed⟩ =>
        hl.not_crashed_of_next hnext (jobCrashed_map_seen.2 hcrashed)
      refine ⟨fun hcrashed => absurd hcrashed hsound, fun _ => ⟨?_, fun hcrashed => ?_⟩,
        ⟨fun _ => ⟨n, hended, fun i hi => ⟨_, hsettles i hi⟩⟩, fun _ => ⟨_, rfl⟩⟩, ?_⟩
      · rintro ⟨f, hf⟩
        cases hf
      · exact absurd hcrashed hsound
      · rintro responses hresponses
        cases hresponses
        exact ⟨n, settled, hended, hsettles, rfl⟩
    · have hcause := hl.cause_of_next hnext
      refine ⟨fun _ => ⟨f, rfl⟩, fun hcrashes => ⟨fun _ => ?_, fun _ => ⟨f, rfl⟩⟩, ⟨?_, ?_⟩, ?_⟩
      · obtain ⟨text, rfl⟩ := hcrashes f (cause_map_seen.1 hcause)
        exact (cause_map_seen.1 hcause).crashed
      · rintro ⟨responses, hresponses⟩
        cases hresponses
      · rintro ⟨m, hended, hsettled⟩
        refine absurd hcause (hl.not_cause (exhausted_map_seen.2 hended) fun i hi => ?_)
        exact (hsettled i hi).imp fun _ => settles_map_seen.2
      · rintro responses hresponses
        cases hresponses
  · have hrunning : c.ending = none := by simpa [Collection.result?] using hresult
    exact hrun.exists_error_of_crashed hlaunch hrunning hcrashed

/-- The call of a job failed without a crash, or the producer did. -/
def Happening.isFailure : Happening → Bool
  | .called _ (.error (.error _)) => true
  | .asked _ (.error (.error _)) => true
  | _ => false

/-- The job that crashed, in its call or its handler. -/
def Happening.crashedJob? : Happening → Option Nat
  | .called index (.error (.crash _)) => some index
  | .handled index _ (.error (.crash _)) => some index
  | _ => none

/-- The index at which a producer crashed. -/
def Happening.crashedProduction? : Happening → Option Nat
  | .asked index (.error (.crash _)) => some index
  | _ => none

theorem JobCrashed.of_mem (hmem : i ∈ h.filterMap Happening.crashedJob?) : JobCrashed h i := by
  obtain ⟨e, he, hcrashed⟩ := List.mem_filterMap.1 hmem
  unfold Happening.crashedJob? at hcrashed
  split at hcrashed
  · obtain rfl := Option.some.inj hcrashed
    exact .called he
  · obtain rfl := Option.some.inj hcrashed
    exact .handled he
  · cases hcrashed

theorem ProducerCrashed.of_mem (hmem : i ∈ h.filterMap Happening.crashedProduction?) :
    ProducerCrashed h i := by
  obtain ⟨e, he, hcrashed⟩ := List.mem_filterMap.1 hmem
  unfold Happening.crashedProduction? at hcrashed
  split at hcrashed
  · obtain rfl := Option.some.inj hcrashed
    exact ⟨_, he⟩
  · cases hcrashed

theorem OnlyCrashes.of_any (hnone : h.any Happening.isFailure = false) : OnlyCrashes p h := by
  have hsound {e : Happening} (he : e ∈ h) : ¬e.isFailure := List.any_eq_false.1 hnone e he
  rintro f (⟨⟨-, hcall⟩ | ⟨hcall, -⟩ | hcall | ⟨hcall, -⟩⟩ | hasked)
  · exact absurd rfl (hsound hcall)
  · exact absurd rfl (hsound hcall)
  · exact ⟨_, rfl⟩
  · exact absurd rfl (hsound hcall)
  · exact absurd rfl (hsound hasked)

/-- A batch with one worker. Either its authorizer crashes, or its producer does after the first
request. -/
def brittle (inJob : Bool) : Plan Unit where
  batch := {
    client := {
      base := none
      authorizer := if inJob then some fun _ w => (.crashed (.ofText "brittle"), w) else none
      transport := fun _ _ w => (⟨0, .ok ⟨200, none, {}, none, none⟩⟩, w)
      retryStatuses := []
      backoff := 0
      headers := {}
      contentType := ""
      tracing := {} }
    workers := 1 }
  producer := fun i w =>
    (if i = 0 then .ok (some { target := "mem:a" })
      else if inJob then .ok none else .crashed (.ofText "brittle"), w)

/-- A job whose call crashes ends the results. -/
theorem collect_crashed_brittle :
    let scene : Scene Unit := { clock := ⟨0, 0⟩, world := () }
    ∃ s₀ h c f, (brittle true).launch scene false = .ok s₀ ∧ Run (brittle true) s₀ h c ∧
      OnlyCrashes (brittle true) h ∧ (∃ i, JobCrashed h i) ∧ c.result? = some (.error f) := by
  intro scene
  have hlaunch : (brittle true).launch scene false = .ok ((brittle true).start scene false) :=
    if_pos (by decide)
  have hshown : (play (brittle true)
      (List.replicate 5 .produces ++ List.replicate 3 (.advances 0) ++ [.reads]) []
      { state := (brittle true).start scene false }).map
        (fun played => (played.2.ending.isSome, played.1.any Happening.isFailure,
          played.1.filterMap Happening.crashedJob?)) = some (true, false, [0]) := by
    decide +kernel
  obtain ⟨⟨h, c⟩, hplay, hc⟩ := Option.map_eq_some_iff.1 hshown
  simp only [Prod.mk.injEq] at hc
  obtain ⟨hending, hfailures, hcrashes⟩ := hc
  have hrun := Run.start.play _ hplay
  have honly : OnlyCrashes (brittle true) h := .of_any hfailures
  have hcrashed : JobCrashed h 0 := .of_mem (hcrashes ▸ List.mem_singleton_self 0)
  obtain ⟨result, hresult⟩ : ∃ result, c.result? = some result :=
    Option.isSome_iff_exists.1 (by simpa [Collection.result?] using hending)
  obtain ⟨f, rfl⟩ := (((collect_crashed hlaunch hrun).1 result hresult).2.1 honly).2 ⟨0, hcrashed⟩
  exact ⟨_, h, c, f, hlaunch, hrun, honly, ⟨0, hcrashed⟩, hresult⟩

/-- The producer crashes at the second request. Nothing else goes wrong, and a list is collected
with the response to the first. -/
theorem crash_unnoticed :
    let scene : Scene Unit := { clock := ⟨0, 0⟩, world := () }
    ∃ s₀ h c responses, (brittle false).launch scene false = .ok s₀ ∧ Run (brittle false) s₀ h c ∧
      ProducerCrashed h 1 ∧ OnlyCrashes (brittle false) h ∧ c.taken.map Outcome.index = [0] ∧
      c.result? = some (.ok responses) := by
  intro scene
  have hlaunch : (brittle false).launch scene false = .ok ((brittle false).start scene false) :=
    if_pos (by decide)
  have hshown : (play (brittle false) (List.replicate 7 .produces ++
      List.replicate 5 (.advances 0) ++ [.reads, .reads]) []
        { state := (brittle false).start scene false }).map
          (fun played => (played.2.ending, played.2.taken.map Outcome.index,
            played.1.any Happening.isFailure, played.1.filterMap Happening.crashedProduction?)) =
              some (some none, [0], false, [1]) := by
    decide +kernel
  obtain ⟨⟨h, c⟩, hplay, hc⟩ := Option.map_eq_some_iff.1 hshown
  simp only [Prod.mk.injEq] at hc
  obtain ⟨hending, htaken, hfailures, hcrashes⟩ := hc
  have hcrashed : ProducerCrashed h 1 := .of_mem (hcrashes ▸ List.mem_singleton_self 1)
  obtain ⟨responses, hresult⟩ : ∃ responses, c.result? = some (.ok responses) := by
    simpa [Collection.result?, hending] using exists_collected c.taken
  exact ⟨_, h, c, responses, hlaunch, Run.start.play _ hplay, hcrashed, .of_any hfailures, htaken,
    hresult⟩

end Courier.Batch
