import Courier.Proofs.Batch.Dispatch

/-!
# The units of a dispatcher

What is true of a dispatcher at all times (`Dispatch.Books`). `Views` says of which submissions it
is known that they have looked at the dispatcher, `Roll` says which units there are,
`Records` what each of them has done, whether it is there, has left or has not begun, `Flags` what
the flags say, and `Hook` how far the failure hook has come.
-/

namespace Courier.Batch.Dispatch

variable {σ : Type} {p : Plan σ} {s s' : State σ} {d d' : Desk σ} {e : Deed}
  {h : List Deed} {i : Nat} {j : Job} {canceled : Bool}

/-! ## Which submissions have looked -/

/-- Where the submissions stand after a history. -/
structure Views (h : List Deed) (d : Desk σ) : Prop where
  /-- Production does not turn away from a unit that has its worker and has not begun. -/
  unplaced : ∀ next ∈ d.waiting, placed next = []
  /-- A submission has looked before it takes a worker. -/
  looked : ∀ i request, .claims i request ∈ d.state.production :: d.waiting → .looks i ∈ h

namespace Views

theorem start {scene : Scene σ} : Views [] { state := p.start scene canceled } where
  unplaced := nofun
  looked := by simp [Plan.start]

/-- Production goes on with its submission, or somebody else does something. -/
theorem snoc (hv : Views h d) (hwaiting : d'.waiting = d.waiting)
    (hproduction : ∀ i request, d'.state.production = .claims i request →
      d.state.production = .claims i request ∨ e = .looks i) : Views (h ++ [e]) d' where
  unplaced := hwaiting ▸ hv.unplaced
  looked i request hmem := by
    rw [hwaiting, List.mem_cons] at hmem
    rcases hmem with hmem | hmem
    · rcases hproduction i request hmem.symm with hsame | rfl
      · exact List.mem_append_left _ (hv.looked i request (hsame ▸ List.mem_cons_self))
      · simp
    · exact List.mem_append_left _ (hv.looked i request (List.mem_cons_of_mem _ hmem))

theorem submission (hv : Views h d) (hstep : Submission p d.state e s') :
    Views (h ++ [e]) { d with state := s' } := by
  cases hstep with
  | looks =>
    refine hv.snoc rfl fun k request hk => .inr ?_
    cases hk
    rfl
  | refuses | accepts | queues | begins => exact hv.snoc rfl nofun

theorem submits {request : Request} (hv : Views h d) :
    Views (h ++ [e]) ⟨d.state, d.waiting ++ [.offers d.submitted request], d.submitted + 1⟩ where
  unplaced next hnext := by
    rcases List.mem_append.1 hnext with hnext | hnext
    · exact hv.unplaced next hnext
    · rw [List.mem_singleton.1 hnext]
      rfl
  looked i request hmem := by
    refine List.mem_append_left _ (hv.looked i request ?_)
    simpa [or_assoc] using hmem

theorem turns {next : Production} {waiting : List Production} (hv : Views h d)
    (hwaiting : d.waiting.Perm (next :: waiting)) :
    Views (h ++ [e])
      ⟨{ d.state with production := next }, waiting ++ setAside d.state.production,
        d.submitted⟩ where
  unplaced other hother := by
    rcases List.mem_append.1 hother with hother | hother
    · exact hv.unplaced other (hwaiting.mem_iff.2 (List.mem_cons_of_mem _ hother))
    · exact placed_of_mem_setAside hother
  looked i request hmem := by
    refine List.mem_append_left _ (hv.looked i request ?_)
    rw [← List.cons_append, List.mem_append] at hmem
    rcases hmem with hmem | hmem
    · exact List.mem_cons_of_mem _ (hwaiting.mem_iff.2 hmem)
    · exact mem_of_mem_setAside hmem ▸ List.mem_cons_self

theorem move (hv : Views h d) (hmove : Move p d e d') : Views (h ++ [e]) d' := by
  cases hmove with
  | executes hbusy hstep => exact hv.submission (.of_produce hbusy hstep)
  | advances hj hstep =>
    refine hv.snoc rfl fun i request hi => .inl ?_
    rwa [← (UnitStep.of_step hstep).production_eq]
  | ends | returns | cancels => exact hv.snoc rfl fun _ _ => .inl
  | submits => exact hv.submits
  | turns _ hwaiting => exact hv.turns hwaiting
  | moves hkeep =>
    refine hv.snoc rfl fun i request hi => ?_
    rcases hkeep with rfl | ⟨-, hidle⟩
    · exact .inl hi
    · cases hi
      exact hidle.elim

end Views

/-! ## Which units there are -/

/-- The units that wait to be accepted. -/
def pending (d : Desk σ) : List Nat :=
  d.waiting.flatMap offered ++ offered d.state.production

/-- The units that have a worker. -/
def holding (s : State σ) : List Nat :=
  s.jobs.map Job.index ++ placed s.production

/-- Which units there are after a history. -/
structure Roll (h : List Deed) (d : Desk σ) : Prop where
  /-- A unit has a number of its own, and is accepted once at most. -/
  nodup : (pending d ++ accepted h).Nodup
  numbered : ∀ i ∈ pending d ++ accepted h, i < d.submitted
  /-- The units that were accepted have a worker, or have left theirs. -/
  present : (holding d.state ++ left h).Perm (accepted h)

namespace Roll

theorem start {scene : Scene σ} : Roll [] { state := p.start scene canceled } where
  nodup := .nil
  numbered := by simp [pending, Plan.start, offered, accepted]
  present := .nil

theorem nodup_present (hr : Roll h d) : (holding d.state ++ left h).Nodup :=
  hr.present.nodup_iff.2 (List.nodup_append.1 hr.nodup).2.1

theorem distinct (hr : Roll h d) : d.state.Distinct :=
  (List.nodup_append.1 (List.nodup_append.1 hr.nodup_present).1).1

/-- A unit that has a worker, but has not begun, is not among the jobs and has not left. -/
theorem job?_of_placed (hr : Roll h d) (hi : i ∈ placed d.state.production) :
    d.state.job? i = none ∧ i ∉ left h := by
  have hnodup := List.nodup_append.1 hr.nodup_present
  refine ⟨?_, fun hleft => hnodup.2.2 i (List.mem_append_right _ hi) i hleft rfl⟩
  cases hjob : d.state.job? i with
  | none => rfl
  | some j =>
    have hmem : i ∈ d.state.jobs.map Job.index :=
      State.job?_index hjob ▸ List.mem_map_of_mem (State.mem_of_job? hjob)
    exact absurd rfl ((List.nodup_append.1 hnodup.1).2.2 i hmem i hi)

/-- Units wait until they are accepted or refused, and have a worker until they leave. -/
theorem snoc (hr : Roll h d) (refused : List Nat) (hsubmitted : d'.submitted = d.submitted)
    (hpending : (refused ++ (pending d' ++ accepted [e])).Perm (pending d))
    (hholding : (holding d'.state ++ left [e]).Perm (holding d.state ++ accepted [e])) :
    Roll (h ++ [e]) d' := by
  -- whoever goes over from one list to another is counted once before and once after
  have hperm : (refused ++ (pending d' ++ accepted (h ++ [e]))).Perm (pending d ++ accepted h) := by
    refine List.perm_iff_count.2 fun i => ?_
    have hcount := hpending.count_eq i
    simp only [accepted_append, List.count_append] at hcount ⊢
    omega
  constructor
  case nodup => exact (List.nodup_append.1 (hperm.nodup_iff.2 hr.nodup)).2.1
  case numbered =>
    intro i hi
    exact hsubmitted ▸ hr.numbered i (hperm.mem_iff.1 (List.mem_append_right _ hi))
  case present =>
    refine List.perm_iff_count.2 fun i => ?_
    have hcount := hr.present.count_eq i
    have hcount' := hholding.count_eq i
    simp only [accepted_append, left_append, List.count_append] at hcount hcount' ⊢
    omega

/-- Nobody comes or goes. -/
theorem congr (hr : Roll h d) (hsubmitted : d'.submitted = d.submitted)
    (hpending : (pending d').Perm (pending d)) (hholding : holding d'.state = holding d.state)
    (ha : accepted [e] = []) (hl : left [e] = []) : Roll (h ++ [e]) d' :=
  hr.snoc [] hsubmitted (by simpa [ha] using hpending) (by simp [ha, hl, hholding])

/-- A unit takes a step. -/
theorem unit (hr : Roll h d) (hj : d.state.job? j.index = some j)
    (hstep : UnitStep d.state j e s') : Roll (h ++ [e]) { d with state := s' } := by
  cases hstep with
  | runs | ends | reportsFirst | reportsLater | hooks | stops =>
    refine hr.congr rfl .rfl ?_ rfl rfl
    unfold holding
    rw [State.map_index_setWork]
    rfl
  | leaves =>
    obtain ⟨before, after, hsplit, hdrop⟩ := State.jobs_dropJob hr.distinct hj
    have hl : left [.leaves j.index] = [j.index] := rfl
    refine hr.snoc [] rfl (.of_eq ?_) (List.perm_iff_count.2 fun i => ?_)
    · simp [pending, State.dropJob, accepted]
    -- the number of the job goes over to those that have left
    · change List.count i ((d.state.dropJob j.index).jobs.map Job.index ++
        placed d.state.production ++ _) = List.count i (d.state.jobs.map Job.index ++ _ ++ [])
      rw [hsplit, hdrop, hl]
      simp only [List.map_append, List.map_cons, List.count_append, List.count_cons, List.count_nil]
      omega

/-- A submission goes on. -/
theorem submission (hr : Roll h d) (hstep : Submission p d.state e s') :
    Roll (h ++ [e]) { d with state := s' } := by
  cases hstep with
  | @refuses i hoffered =>
    have hpending : pending d = d.waiting.flatMap offered ++ [i] := by rw [pending, hoffered]
    have hholding : holding d.state = d.state.jobs.map Job.index ++ [] := by
      rw [holding, placed_of_offered hoffered]
    refine hr.snoc [i] rfl ?_ (.of_eq ?_)
    · rw [hpending]
      simpa [pending, offered, accepted] using (List.perm_append_singleton i _).symm
    · rw [hholding]
      rfl
  | @looks i request hoffered =>
    refine hr.congr rfl (.of_eq ?_) ?_ rfl rfl
    · unfold pending
      rw [hoffered]
      rfl
    · unfold holding
      rw [placed_of_offered hoffered]
      rfl
  | @queues i request hproduction =>
    refine hr.congr rfl (.of_eq ?_) ?_ rfl rfl
    · simp only [pending, hproduction, offered]
    · simp only [holding, hproduction, placed]
  | @accepts i request hproduction =>
    refine hr.snoc [] rfl ?_ ?_
    · simp [pending, hproduction, offered, accepted]
    · simp [holding, hproduction, placed, accepted, left]
  | @begins i request hproduction =>
    refine hr.snoc [] rfl ?_ ?_
    · simp [pending, hproduction, offered, accepted]
    · simp [holding, hproduction, placed, accepted, left, State.addJob]

theorem submits {request : Request} (hr : Roll h d) :
    Roll (h ++ [.submits d.submitted])
      ⟨d.state, d.waiting ++ [.offers d.submitted request], d.submitted + 1⟩ := by
  have ha : accepted (h ++ [.submits d.submitted]) = accepted h := by simp [accepted]
  have hl : left (h ++ [.submits d.submitted]) = left h := by simp [left]
  have hperm : (pending ⟨d.state, d.waiting ++ [.offers d.submitted request], d.submitted + 1⟩ ++
      accepted h).Perm (d.submitted :: (pending d ++ accepted h)) := by
    simp [pending, offered]
  have hfresh : d.submitted ∉ pending d ++ accepted h := fun hmem =>
    Nat.lt_irrefl _ (hr.numbered _ hmem)
  constructor
  case nodup =>
    rw [ha]
    exact hperm.nodup_iff.2 (List.nodup_cons.2 ⟨hfresh, hr.nodup⟩)
  case numbered =>
    intro i hi
    rw [ha, hperm.mem_iff, List.mem_cons] at hi
    rcases hi with rfl | hi
    · exact Nat.lt_succ_self _
    · exact Nat.lt_succ_of_lt (hr.numbered i hi)
  case present =>
    rw [ha, hl]
    exact hr.present

/-- Production turns to another submission. -/
theorem turns {next : Production} {waiting : List Production} (hr : Roll h d) (hv : Views h d)
    (hfree : placed d.state.production = []) (hwaiting : d.waiting.Perm (next :: waiting)) :
    Roll (h ++ [.moves])
      ⟨{ d.state with production := next }, waiting ++ setAside d.state.production,
        d.submitted⟩ := by
  refine hr.congr rfl (List.perm_iff_count.2 fun i => ?_) ?_ rfl rfl
  · have hcount := (hwaiting.flatMap_right offered).count_eq i
    simp only [pending, List.flatMap_append, offered_setAside, List.flatMap_cons,
      List.count_append] at hcount ⊢
    omega
  · have hnext := hv.unplaced next (hwaiting.mem_iff.2 List.mem_cons_self)
    simp only [holding, hfree, hnext]

theorem move (hr : Roll h d) (hv : Views h d) (hmove : Move p d e d') : Roll (h ++ [e]) d' := by
  cases hmove with
  | executes hbusy hstep => exact hr.submission (.of_produce hbusy hstep)
  | advances hj hstep => exact hr.unit hj (.of_step hstep)
  | ends hj hruns result => exact hr.unit hj (.ends hruns result)
  | returns | cancels => exact hr.congr rfl .rfl rfl rfl rfl
  | turns hfree hwaiting => exact hr.turns hv hfree hwaiting
  | submits => exact hr.submits
  | moves hkeep =>
    rcases hkeep with rfl | ⟨hidle, hidle'⟩
    · exact hr.congr rfl .rfl rfl rfl rfl
    · refine hr.congr rfl ?_ ?_ rfl rfl
      · simp [pending, offered_of_idle hidle, offered_of_idle hidle']
      · simp [holding, placed_of_idle hidle, placed_of_idle hidle']

end Roll

/-! ## What the units have done -/

/-- A unit has done all that there is to do. -/
inductive Done (h : List Deed) (i : Nat) : Prop where
  | well (hresult : results h i = [.ok ()]) : Done h i
  | badly {stop : Stop Failure} (hresult : results h i = [.error stop])
      (hreported : i ∈ reported h) (hstopped : .stops i ∈ h) : Done h i

/-- What a unit has done before it does some work. -/
def Stands (h : List Deed) (i : Nat) : Work → Prop
  | .fails f => ∃ stop, results h i = [.error stop] ∧ f = failureOf stop
  | .reports f =>
    ∃ stop, results h i = [.error stop] ∧ f = failureOf stop ∧
      (reported h).head? = some i ∧ hooked h = []
  | .stops => ∃ stop, results h i = [.error stop] ∧ i ∈ reported h
  | .leaves => Done h i
  | _ => results h i = []

theorem stands_iff_of_runs {work : Work} (hruns : Runs work) :
    Stands h i work ↔ results h i = [] := by
  cases work <;> first | rfl | exact hruns.elim

/-- What a unit does after it has ended. -/
theorem stands_afterwards {result : Answer Failure Unit} (hresult : results h i = [result]) :
    Stands h i (afterwards result) := by
  match result with
  | .ok () => exact .well hresult
  | .error stop => exact ⟨stop, hresult, rfl⟩

theorem Done.snoc (hd : Done h i) (hr : results [e] i = []) : Done (h ++ [e]) i := by
  cases hd with
  | well hresult => exact .well (by simp [hresult, hr])
  | badly hresult hreported hstopped =>
    exact .badly (by rw [results_append, hresult, hr, List.append_nil]) (by simp [hreported])
      (by simp [hstopped])

/-- What others do changes nothing, unless they call the hook. -/
theorem Stands.snoc {work : Work} (hs : Stands h i work) (hr : results [e] i = [])
    (hh : hooked [e] = [] ∨ ∀ f, work ≠ .reports f) : Stands (h ++ [e]) i work := by
  have hresults : results (h ++ [e]) i = results h i := by simp [hr]
  cases work with
  | begins | calls | handles | answers | delivers => exact hresults.trans hs
  | leaves => exact Done.snoc hs hr
  | fails f =>
    obtain ⟨stop, hresult, hf⟩ := hs
    exact ⟨stop, hresults.trans hresult, hf⟩
  | stops =>
    obtain ⟨stop, hresult, hreported⟩ := hs
    exact ⟨stop, hresults.trans hresult, by simp [hreported]⟩
  | reports f =>
    obtain ⟨stop, hresult, hf, hfirst, hquiet⟩ := hs
    have hhook : hooked [e] = [] := hh.resolve_right fun hne => hne f rfl
    exact ⟨stop, hresults.trans hresult, hf, by simp [hfirst], by simp [hquiet, hhook]⟩

/-- What is true of a unit that is to do some work, or is not there. -/
inductive Record (h : List Deed) (i : Nat) : Option Work → Prop where
  | there {work : Work} (hstands : Stands h i work) (hleft : i ∉ left h) : Record h i (some work)
  | gone (hdone : Done h i) (hleft : i ∈ left h) : Record h i none
  | unbegun (hresults : results h i = []) (hleft : i ∉ left h) : Record h i none

namespace Record

variable {work? : Option Work}

theorem snoc (hr : Record h i work?) (he : results [e] i = []) (hl : i ∉ left [e])
    (hh : hooked [e] = [] ∨ ∀ f, work? ≠ some (.reports f)) : Record (h ++ [e]) i work? := by
  have hstays (hleft : i ∉ left h) : i ∉ left (h ++ [e]) := by simp [hleft, hl]
  cases hr with
  | there hstands hleft =>
    exact .there (hstands.snoc he (hh.imp_right fun hne f heq => hne f (congrArg some heq)))
      (hstays hleft)
  | gone hdone hleft => exact .gone (hdone.snoc he) (by simp [hleft])
  | unbegun hresults hleft => exact .unbegun (by simp [hresults, he]) (hstays hleft)

theorem done (hr : Record h i work?) (hi : i ∈ left h) : Done h i := by
  cases hr with
  | gone hdone => exact hdone
  | there _ hleft | unbegun _ hleft => exact absurd hi hleft

/-- A unit ends once at most. If it failed, it is about to report, or has reported. -/
theorem results_cases (hr : Record h i work?) :
    results h i = [] ∨ results h i = [.ok ()] ∨
      ∃ stop, results h i = [.error stop] ∧ ((∃ f, work? = some (.fails f)) ∨ i ∈ reported h) := by
  have hdone {work? : Option Work} (hd : Done h i) :
      results h i = [] ∨ results h i = [.ok ()] ∨ ∃ stop, results h i = [.error stop] ∧
        ((∃ f, work? = some (.fails f)) ∨ i ∈ reported h) := by
    cases hd with
    | well hresult => exact .inr (.inl hresult)
    | badly hresult hreported => exact .inr (.inr ⟨_, hresult, .inr hreported⟩)
  cases hr with
  | unbegun hresults => exact .inl hresults
  | gone hd => exact hdone hd
  | @there work hstands =>
    cases work with
    | begins | calls | handles | answers | delivers => exact .inl hstands
    | leaves => exact hdone hstands
    | fails f =>
      obtain ⟨stop, hresult, -⟩ := hstands
      exact .inr (.inr ⟨stop, hresult, .inl ⟨f, rfl⟩⟩)
    | reports f =>
      obtain ⟨stop, hresult, -, hfirst, -⟩ := hstands
      exact .inr (.inr ⟨stop, hresult, .inr (List.mem_of_head? hfirst)⟩)
    | stops =>
      obtain ⟨stop, hresult, hreported⟩ := hstands
      exact .inr (.inr ⟨stop, hresult, .inr hreported⟩)

theorem length_results_le (hr : Record h i work?) : (results h i).length ≤ 1 := by
  rcases hr.results_cases with hresult | hresult | ⟨stop, hresult, -⟩ <;> simp [hresult]

theorem fails_or_reported (hr : Record h i work?) (hfailed : Failed h i) :
    (∃ f, work? = some (.fails f)) ∨ i ∈ reported h := by
  obtain ⟨stop, hstop⟩ := hfailed
  rcases hr.results_cases with hresult | hresult | ⟨-, -, hreports⟩
  · simp [hresult] at hstop
  · simp [hresult] at hstop
  · exact hreports

end Record

/-- What the units have done. -/
def Records (h : List Deed) (s : State σ) : Prop :=
  ∀ i, Record h i (s.workAt i)

namespace Records

theorem start {scene : Scene σ} : Records [] (p.start scene canceled) := fun i =>
  .unbegun rfl (by simp [left])

/-- Somebody who is no unit does something. -/
theorem congr (hr : Records h s) (hjobs : s'.jobs = s.jobs) (he : ∀ i, results [e] i = [])
    (hh : hooked [e] = []) (hl : left [e] = []) : Records (h ++ [e]) s' := fun i => by
  rw [State.workAt_congr hjobs]
  exact (hr i).snoc (he i) (by simp [hl]) (.inl hh)

/-- A unit does something. -/
theorem step (hr : Records h s) (hown : Record (h ++ [e]) i (s'.workAt i))
    (hothers : ∀ k, k ≠ i → s'.workAt k = s.workAt k)
    (he : ∀ k, k ≠ i → results [e] k = []) (hl : ∀ k, k ≠ i → k ∉ left [e])
    (hh : hooked [e] = [] ∨ ∀ k f, k ≠ i → s.workAt k ≠ some (.reports f)) :
    Records (h ++ [e]) s' := by
  intro k
  by_cases hk : k = i
  · exact hk ▸ hown
  · rw [hothers k hk]
    exact (hr k).snoc (he k hk) (hl k hk) (hh.imp_right fun hne f => hne k f hk)

/-- A unit takes a step, and goes on with other work. -/
theorem setWork {s₁ : State σ} {work : Work} (hr : Records h s) (hleft : j.index ∉ left h)
    (hj : s.job? j.index = some j) (hjobs : s₁.jobs = s.jobs)
    (hown : Stands (h ++ [e]) j.index work) (he : ∀ k, k ≠ j.index → results [e] k = [])
    (hh : hooked [e] = [] ∨ ∀ k f, k ≠ j.index → s.workAt k ≠ some (.reports f))
    (hl : left [e] = []) : Records (h ++ [e]) (s₁.setWork j.index work) := by
  have hwork (k : Nat) : (s₁.setWork j.index work).workAt k =
      if k = j.index then some work else s.workAt k := by
    rw [State.workAt_setWork ((State.job?_congr hjobs _).trans hj), State.workAt_congr hjobs]
  refine hr.step ?_ (fun k hk => (hwork k).trans (if_neg hk)) he (by simp [hl]) hh
  rw [hwork, if_pos rfl]
  exact .there hown (by simp [hleft, hl])

/-- A unit that is at its end leaves. -/
theorem dropJob (hr : Records h s) (hdone : Done h j.index) :
    Records (h ++ [.leaves j.index]) (s.dropJob j.index) := by
  have hl : left [.leaves j.index] = [j.index] := rfl
  refine hr.step (i := j.index) ?_ (fun k hk => State.workAt_dropJob.trans (if_neg hk))
    (fun _ _ => rfl) (by simp [hl]) (.inl rfl)
  rw [State.workAt_dropJob, if_pos rfl]
  exact .gone (hdone.snoc rfl) (by simp [hl])

/-- A unit begins. -/
theorem addJob {request : Request} {production : Production} (hr : Records h s)
    (hfresh : s.job? i = none) (hleft : i ∉ left h) :
    Records (h ++ [.begins i]) { s.addJob i request with production } := by
  have hl : left [.begins i] = [] := rfl
  have hwork (k : Nat) : State.workAt { s.addJob i request with production } k =
      if k = i then some .begins else s.workAt k :=
    State.workAt_addJob hfresh
  have hnone : results h i = [] := by
    have hunit := hr i
    rw [State.workAt, hfresh] at hunit
    cases hunit with
    | unbegun hresults => exact hresults
    | gone _ hgone => exact absurd hgone hleft
  refine hr.step (i := i) ?_ (fun k hk => (hwork k).trans (if_neg hk)) (fun _ _ => rfl)
    (by simp [hl]) (.inl rfl)
  rw [hwork, if_pos rfl]
  exact .there ((results_append h _ i).trans (by rw [hnone]; rfl)) (by simp [hleft, hl])

theorem of_job? (hr : Records h s) (hj : s.job? i = some j) :
    Stands h i j.work ∧ i ∉ left h := by
  have hunit := hr i
  rw [State.workAt_of_job? hj] at hunit
  cases hunit with
  | there hstands hleft => exact ⟨hstands, hleft⟩

theorem unit (hr : Records h s) (hj : s.job? j.index = some j)
    (hquiet : s.failed = false → reported h = [] ∧ hooked h = [])
    (hstep : UnitStep s j e s') : Records (h ++ [e]) s' := by
  obtain ⟨hs, hleft⟩ := hr.of_job? hj
  have hsame {l : List (Answer Failure Unit)} (hresult : results h j.index = l)
      (he : results [e] j.index = []) : results (h ++ [e]) j.index = l := by
    rw [results_append, hresult, he, List.append_nil]
  cases hstep with
  | @runs _ _ work hruns hwork =>
    refine hr.setWork hleft hj rfl ?_ (fun _ _ => rfl) (.inl rfl) rfl
    exact (stands_iff_of_runs hwork).2 (hsame ((stands_iff_of_runs hruns).1 hs) rfl)
  | ends hruns result =>
    have hnone : results h j.index = [] := (stands_iff_of_runs hruns).1 hs
    refine hr.setWork hleft hj rfl ?_ (fun k hk => results_ends_of_ne hk _) (.inl rfl) rfl
    exact stands_afterwards (by simp [hnone])
  | reportsFirst hwork hfirst =>
    rw [hwork] at hs
    obtain ⟨stop, hresult, hf⟩ := hs
    obtain ⟨hnone, hunhooked⟩ := hquiet hfirst
    have hhead : (reported (h ++ [.reports j.index])).head? = some j.index := by
      rw [reported_append, hnone]
      rfl
    have hhooked : hooked (h ++ [.reports j.index]) = [] := by
      rw [hooked_append, hunhooked]
      rfl
    exact hr.setWork hleft hj rfl ⟨stop, hsame hresult rfl, hf, hhead, hhooked⟩ (fun _ _ => rfl)
      (.inl rfl) rfl
  | reportsLater hwork hfailed =>
    rw [hwork] at hs
    obtain ⟨stop, hresult, -⟩ := hs
    have hmem : j.index ∈ reported (h ++ [.reports j.index]) := by simp [reported]
    exact hr.setWork hleft hj rfl ⟨stop, hsame hresult rfl, hmem⟩ (fun _ _ => rfl) (.inl rfl) rfl
  | @hooks _ _ f hwork =>
    rw [hwork] at hs
    obtain ⟨stop, hresult, -, hfirst, -⟩ := hs
    have hmem : j.index ∈ reported (h ++ [.hooks f]) := by simp [List.mem_of_head? hfirst]
    refine hr.setWork hleft hj rfl ⟨stop, hsame hresult rfl, hmem⟩ (fun _ _ => rfl) (.inr ?_) rfl
    -- the only unit about to call the hook is the first to report
    intro k f hk hwork'
    have hunit := hr k
    rw [hwork'] at hunit
    cases hunit with
    | there hstands =>
      obtain ⟨-, -, -, hfirst', -⟩ := hstands
      exact hk (Option.some_inj.1 (hfirst'.symm.trans hfirst))
  | stops hwork =>
    rw [hwork] at hs
    obtain ⟨stop, hresult, hreported⟩ := hs
    refine hr.setWork hleft hj rfl ?_ (fun _ _ => rfl) (.inl rfl) rfl
    exact .badly (hsame hresult rfl) (by simp [hreported]) (by simp)
  | leaves hwork =>
    rw [hwork] at hs
    exact hr.dropJob hs

end Records

/-! ## The flags and the hook -/

/-- What the flags say. -/
structure Flags (canceled : Bool) (h : List Deed) (s : State σ) : Prop where
  failed : s.failed ↔ reported h ≠ []
  shut : s.stopped ∨ s.canceled ↔ Canceled canceled h

/-- How far the failure hook has come. -/
inductive Hook (h : List Deed) (s : State σ) : Prop where
  | idle (hreported : reported h = []) (hhooked : hooked h = []) : Hook h s
  /-- The first unit to report is about to call the hook. -/
  | due {i : Nat} {f : Failure} (hfirst : (reported h).head? = some i) (hhooked : hooked h = [])
      (hwork : s.workAt i = some (.reports f)) : Hook h s
  | called {i : Nat} {stop : Stop Failure} (hfirst : (reported h).head? = some i)
      (hresult : .error stop ∈ results h i) (hhooked : hooked h = [failureOf stop]) : Hook h s

theorem canceled_snoc : Canceled canceled (h ++ [e]) ↔ Canceled canceled h ∨ e.Cancels := by
  simp only [Canceled, List.mem_append, List.mem_singleton, or_and_right, exists_or,
    exists_eq_left, or_assoc]

namespace Flags

theorem start {scene : Scene σ} : Flags canceled [] (p.start scene canceled) where
  failed := by simp [Plan.start, reported]
  shut := by simp [Plan.start, Canceled]

theorem snoc (hf : Flags canceled h s) (hfailed : s'.failed ↔ s.failed ∨ reported [e] ≠ [])
    (hshut : s'.stopped ∨ s'.canceled ↔ (s.stopped ∨ s.canceled) ∨ e.Cancels) :
    Flags canceled (h ++ [e]) s' where
  failed := by rw [hfailed, hf.failed, reported_append, ne_eq, ne_eq, ne_eq,
    List.append_eq_nil_iff, not_and_or]
  shut := by rw [hshut, hf.shut, canceled_snoc]

theorem unit (hf : Flags canceled h s) (hstep : UnitStep s j e s') :
    Flags canceled (h ++ [e]) s' := by
  cases hstep with
  | runs | ends | hooks | leaves =>
    exact hf.snoc (by simp [State.setWork, State.dropJob, reported])
      (by simp [State.setWork, State.dropJob, Deed.Cancels])
  | reportsFirst | reportsLater | stops =>
    exact hf.snoc (by simp [State.setWork, reported, *]) (by simp [State.setWork, Deed.Cancels])

end Flags

namespace Hook

/-- Nobody calls the hook, whoever is about to call it still is, and nobody is the first to
report. -/
theorem congr (hk : Hook h s)
    (hwork : ∀ i f, s.workAt i = some (.reports f) → s'.workAt i = some (.reports f))
    (hr : reported h = [] → reported [e] = []) (hh : hooked [e] = []) : Hook (h ++ [e]) s' := by
  have hhead {i : Nat} (hfirst : (reported h).head? = some i) :
      (reported (h ++ [e])).head? = some i := by
    simp [hfirst]
  have hquiet {l : List Failure} (hhooked : hooked h = l) : hooked (h ++ [e]) = l := by
    simp [hhooked, hh]
  cases hk with
  | idle hreported hhooked =>
    have hnone : reported (h ++ [e]) = [] := by simp [hreported, hr hreported]
    exact .idle hnone (hquiet hhooked)
  | due hfirst hhooked hwork' => exact .due (hhead hfirst) (hquiet hhooked) (hwork _ _ hwork')
  | called hfirst hresult hhooked =>
    exact .called (hhead hfirst) (results_append h [e] _ ▸ List.mem_append_left _ hresult)
      (hquiet hhooked)

/-- A unit takes a step, and has not been about to call the hook. -/
theorem setWork {s₁ : State σ} {work : Work} (hk : Hook h s) (hj : s.job? j.index = some j)
    (hne : ∀ f, j.work ≠ .reports f) (hjobs : s₁.jobs = s.jobs)
    (hr : reported h = [] → reported [e] = []) (hh : hooked [e] = []) :
    Hook (h ++ [e]) (s₁.setWork j.index work) := by
  refine hk.congr (fun i f hwork => ?_) hr hh
  have hi : i ≠ j.index := by
    rintro rfl
    exact hne f (Option.some_inj.1 ((State.workAt_of_job? hj).symm.trans hwork))
  rwa [State.workAt_setWork ((State.job?_congr hjobs _).trans hj), if_neg hi,
    State.workAt_congr hjobs]

theorem hooked_eq_nil (hk : Hook h s) (hnone : reported h = []) : hooked h = [] := by
  cases hk with
  | idle _ hhooked | due _ hhooked => exact hhooked
  | called hfirst => simp [hnone] at hfirst

theorem unit (hk : Hook h s) (hf : Flags canceled h s) (hr : Records h s)
    (hj : s.job? j.index = some j) (hstep : UnitStep s j e s') : Hook (h ++ [e]) s' := by
  have hs : Stands h j.index j.work := (hr.of_job? hj).1
  cases hstep with
  | runs hruns | ends hruns =>
    have hne : ∀ f, j.work ≠ .reports f := fun f hwork => by simp [hwork, Runs] at hruns
    exact hk.setWork hj hne rfl (fun _ => rfl) rfl
  | stops hwork => exact hk.setWork hj (by simp [hwork]) rfl (fun _ => rfl) rfl
  | reportsLater hwork hfailed =>
    exact hk.setWork hj (by simp [hwork]) rfl (fun hnone => absurd hnone (hf.failed.1 hfailed)) rfl
  | @reportsFirst f hwork hfirst =>
    have hnone : reported h = [] := by simpa [hfirst] using hf.failed
    refine .due (i := j.index) (f := f) ?_ ?_ ?_
    · rw [reported_append, hnone]
      rfl
    · rw [hooked_append, hk.hooked_eq_nil hnone]
      rfl
    · exact (State.workAt_setWork (s := { s with failed := true }) hj).trans (if_pos rfl)
  | hooks hwork =>
    rw [hwork] at hs
    obtain ⟨stop, hresult, rfl, hfirst, hnone⟩ := hs
    have hresult' : .error stop ∈ results (h ++ [.hooks (failureOf stop)]) j.index := by
      simp [hresult]
    refine .called ?_ hresult' ?_
    · simp [hfirst]
    · rw [hooked_append, hnone]
      rfl
  | leaves hwork =>
    refine hk.congr (fun i f hwork' => ?_) (fun _ => rfl) rfl
    have hi : i ≠ j.index := by
      rintro rfl
      rw [State.workAt_of_job? hj, hwork] at hwork'
      cases hwork'
    rwa [State.workAt_dropJob, if_neg hi]

end Hook

/-! ## All along a course -/

/-- What is true of a dispatcher after a history. -/
structure Books (canceled : Bool) (h : List Deed) (d : Desk σ) : Prop where
  views : Views h d
  roll : Roll h d
  records : Records h d.state
  flags : Flags canceled h d.state
  hook : Hook h d.state

namespace Books

theorem start {scene : Scene σ} : Books canceled [] { state := p.start scene canceled } where
  views := .start
  roll := .start
  records := .start
  flags := .start
  hook := .idle rfl rfl

theorem unit (hb : Books canceled h d) (hj : d.state.job? j.index = some j)
    (hstep : UnitStep d.state j e s') : Books canceled (h ++ [e]) { d with state := s' } where
  views := hb.views.snoc rfl fun _ _ hproduction => .inl (hstep.production_eq ▸ hproduction)
  roll := hb.roll.unit hj hstep
  records := by
    refine hb.records.unit hj (fun hfirst => ?_) hstep
    have hnone : reported h = [] := by simpa [hfirst] using hb.flags.failed
    exact ⟨hnone, hb.hook.hooked_eq_nil hnone⟩
  flags := hb.flags.unit hstep
  hook := hb.hook.unit hb.flags hb.records hj hstep

/-- Somebody who is no unit does something. -/
theorem congr (hb : Books canceled h d) (hviews : Views (h ++ [e]) d') (hroll : Roll (h ++ [e]) d')
    (hjobs : d'.state.jobs = d.state.jobs) (hfailed : d'.state.failed = d.state.failed)
    (hshut : d'.state.stopped ∨ d'.state.canceled ↔
      (d.state.stopped ∨ d.state.canceled) ∨ e.Cancels)
    (he : ∀ i, results [e] i = []) (hr : reported [e] = []) (hh : hooked [e] = [])
    (hl : left [e] = []) : Books canceled (h ++ [e]) d' where
  views := hviews
  roll := hroll
  records := hb.records.congr hjobs he hh hl
  flags := hb.flags.snoc (by simp [hfailed, hr]) hshut
  hook := hb.hook.congr (fun _ _ hwork => State.workAt_congr hjobs ▸ hwork) (fun _ => hr) hh

theorem submission (hb : Books canceled h d) (hstep : Submission p d.state e s') :
    Books canceled (h ++ [e]) { d with state := s' } := by
  have hviews := hb.views.submission hstep
  have hroll := hb.roll.submission hstep
  cases hstep with
  | refuses | looks | accepts | queues =>
    exact hb.congr hviews hroll rfl rfl (by simp [Deed.Cancels]) (fun _ => rfl) rfl rfl rfl
  | @begins i request hproduction =>
    obtain ⟨hfresh, hleft⟩ := hb.roll.job?_of_placed (i := i) (by simp [hproduction, placed])
    constructor
    case views => exact hviews
    case roll => exact hroll
    case records => exact hb.records.addJob hfresh hleft
    case flags =>
      exact hb.flags.snoc (by simp [State.addJob, reported])
        (by simp [State.addJob, Deed.Cancels])
    case hook =>
      refine hb.hook.congr (fun k f hwork => ?_) (fun _ => rfl) rfl
      have hk : k ≠ i := by
        rintro rfl
        simp [State.workAt, hfresh] at hwork
      exact (State.workAt_addJob hfresh).trans ((if_neg hk).trans hwork)

theorem move (hb : Books canceled h d) (hmove : Move p d e d') :
    Books canceled (h ++ [e]) d' := by
  have hviews := hb.views.move hmove
  have hroll := hb.roll.move hb.views hmove
  cases hmove with
  | executes hbusy hstep => exact hb.submission (.of_produce hbusy hstep)
  | advances hj hstep => exact hb.unit hj (.of_step hstep)
  | ends hj hruns result => exact hb.unit hj (.ends hruns result)
  | submits | turns | returns | cancels | moves =>
    exact hb.congr hviews hroll rfl rfl (by simp [Deed.Cancels]) (fun _ => rfl) rfl rfl rfl

theorem of_course {scene : Scene σ} (hcourse : Course p { state := p.start scene canceled } h d) :
    Books canceled h d :=
  hcourse.invariant .start fun _ _ _ _ => move

end Books

end Courier.Batch.Dispatch
