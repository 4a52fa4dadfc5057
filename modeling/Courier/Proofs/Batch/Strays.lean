import Courier.Proofs.Batch.Solo
import Mathlib.Data.List.TakeWhile

/-!
# A job after a failure

When a job has reported why the batch fails, nothing new is to be accepted. But production may have
looked just before whether the batch is to go on, and what it has in hand by then becomes a job
still, once a worker is free : a stray (`Session.strays`).

With one worker there is one stray at most, for the request after the one that failed
(`strays_eq`). The batch sends what the plain loop does not, but its outlet is canceled by then. So
the reader takes no response of a stray, and hears of no failure but that of the loop
(`Strayed.move`).
-/

namespace Courier

/-- What was sent before a piece stays so. -/
theorem Scene.sends_prefix_perform {σ α : Type} (s : Scene σ) (act : Act σ α) :
    s.log.sends <+: (s.perform act).2.log.sends := by
  unfold Scene.perform
  rw [Timeline.sends_append]
  exact List.prefix_append _ _

theorem Outlet.cancel_of_canceled {α : Type} {o : Outlet α} (h : o.canceled) (f : Failure) :
    o.cancel f = o :=
  if_pos h

namespace Batch.Session

variable {σ : Type} {p : Plan σ} {requests : List Request} {On : Instant → Instant → Prop}
  {scene : Scene σ} {s s' s₀ : State σ} {l : Loop σ} {e : Deed} {h before after : List Deed}
  {j : Job} {f : Failure} {i : Nat}

/-! ## Which jobs are strays -/

/-- A job reports why the batch fails. -/
def Deed.isReport : Deed → Bool
  | .reports _ _ => true
  | _ => false

/-- The indices of the requests that became jobs after a job had reported why the batch fails. -/
def strays (h : List Deed) : List Nat :=
  accepted (h.dropWhile fun e => !e.isReport)

theorem strays_of_quiet (hquiet : ∀ e ∈ before, e.isReport = false) :
    strays (before ++ .reports i f :: after) = accepted after := by
  have hdrop : (before ++ .reports i f :: after).dropWhile (fun e => !e.isReport) =
      .reports i f :: after := by
    rw [List.dropWhile_append_of_pos fun e he => by simp [hquiet e he]]
    rfl
  rw [strays, hdrop]
  rfl

/-- A history without a report has no strays. -/
theorem strays_eq_nil (hquiet : ∀ e ∈ h, e.isReport = false) : strays h = [] := by
  have hdrop : h.dropWhile (fun e => !e.isReport) = [] :=
    List.dropWhile_eq_nil_iff.2 fun e he => by simp [hquiet e he]
  rw [strays, hdrop]
  rfl

/-- There is a first report, if there is one. -/
theorem exists_first : ∀ h : List Deed, (∀ e ∈ h, e.isReport = false) ∨
    ∃ before i f after, h = before ++ .reports i f :: after ∧ ∀ e ∈ before, e.isReport = false
  | [] => .inl nofun
  | e :: rest => by
    cases he : e.isReport with
    | true =>
      unfold Deed.isReport at he
      split at he
      · next i f => exact .inr ⟨[], i, f, rest, rfl, nofun⟩
      · cases he
    | false =>
      have hhead {before : List Deed} (hquiet : ∀ e ∈ before, e.isReport = false) :
          ∀ e' ∈ e :: before, e'.isReport = false := List.forall_mem_cons.2 ⟨he, hquiet⟩
      rcases exists_first rest with hquiet | ⟨before, i, f, after, rfl, hquiet⟩
      · exact .inl (hhead hquiet)
      · exact .inr ⟨e :: before, i, f, after, rfl, hhead hquiet⟩

theorem strays_append_ne_nil (hstrays : strays h ≠ []) (h' : List Deed) :
    strays (h ++ h') ≠ [] := by
  rcases exists_first h with hquiet | ⟨before, i, f, after, rfl, hquiet⟩
  · exact absurd (strays_eq_nil hquiet) hstrays
  · rw [List.append_assoc, List.cons_append, strays_of_quiet hquiet, accepted_append]
    rw [strays_of_quiet hquiet] at hstrays
    exact List.append_ne_nil_of_left_ne_nil hstrays _

theorem strays_concat (haccepts : accepted [e] = []) : strays (h ++ [e]) = strays h := by
  rcases exists_first h with hquiet | ⟨before, i, f, after, rfl, hquiet⟩
  · rw [strays_eq_nil hquiet, strays,
      List.dropWhile_append_of_pos fun e he => by simp [hquiet e he]]
    have hsub : (accepted ([e].dropWhile fun e => !e.isReport)).Sublist (accepted [e]) :=
      (List.dropWhile_sublist _).filterMap _
    rw [haccepts] at hsub
    exact List.sublist_nil.1 hsub
  · rw [List.append_assoc, List.cons_append, strays_of_quiet hquiet, strays_of_quiet hquiet,
      accepted_append, haccepts, List.append_nil]

/-- A job that is accepted after a report is a stray. -/
theorem strays_accepts_ne_nil (hreport : .reports i f ∈ h) (k : Nat) :
    strays (h ++ [.accepts k]) ≠ [] := by
  rcases exists_first h with hquiet | ⟨before, i', f', after, rfl, hquiet⟩
  · cases hquiet _ hreport
  · rw [List.append_assoc, List.cons_append, strays_of_quiet hquiet, accepted_append]
    exact List.append_ne_nil_of_right_ne_nil _ nofun

/-! ## One stray at most -/

/-- Production accepts nothing unless it adds a job, and leaves the jobs as they are. -/
theorem accepts_nothing (hadds : ¬∃ i request, s.production = .adds i request)
    (hstep : Batch.produce p s = some s') :
    accepted [doneByProduction p s] = [] ∧ s'.jobs = s.jobs := by
  constructor
  · unfold doneByProduction
    split
    · rfl
    · next hproduction => exact absurd ⟨_, _, hproduction⟩ hadds
    · rfl
  · obtain ⟨_, hshown⟩ := exists_productionStep hstep
    cases hshown with
    | adds hproduction => exact absurd ⟨_, _, hproduction⟩ hadds
    | _ => rfl

/-- When a job is added, the only worker is free for it. -/
theorem Census.jobs_of_adds (hc : Census p h s) (hworkers : p.batch.workers = 1)
    {request : Request} (hproduction : s.production = .adds i request) : s.jobs = [] := by
  have hplaces := hc.places
  have hone : p.batch.places ≤ 1 := hworkers ▸ Nat.min_le_left _ _
  rw [hproduction] at hplaces
  simp only [held] at hplaces
  exact List.length_eq_zero_iff.1 (by omega)

/-- The only job that one worker has is the last that was accepted. -/
theorem last_accepted (hlaunch : p.launch scene false = .ok s₀) (hworkers : p.batch.workers = 1)
    (hcourse : Course p s₀ h s) : ∀ j ∈ s.jobs, j.index + 1 = (accepted h).length := by
  suffices hlast : ∀ i ∈ s.jobs.map Job.index, i + 1 = (accepted h).length from
    fun j hj => hlast _ (List.mem_map_of_mem hj)
  induction hcourse with
  | nil =>
    obtain rfl := eq_start_of_launch hlaunch
    nofun
  | @snoc h e s s' hcourse hmove ih =>
    have hkeeps (hindices : s'.jobs.map Job.index ⊆ s.jobs.map Job.index)
        (haccepts : accepted [e] = []) :
        ∀ i ∈ s'.jobs.map Job.index, i + 1 = (accepted (h ++ [e])).length := by
      rw [accepted_append, haccepts, List.append_nil]
      exact fun i hi => ih i (hindices hi)
    cases hmove with
    | produces hstep =>
      by_cases hadds : ∃ i request, s.production = .adds i request
      · obtain ⟨i, request, hproduction⟩ := hadds
        have hcensus := Census.of_course hlaunch hcourse
        have hstands := hcensus.stands
        have hjobs := hcensus.jobs_of_adds hworkers hproduction
        simp only [Batch.produce, hproduction, Option.some.injEq] at hstep
        rw [hproduction] at hstands
        subst hstep
        intro k hk
        simp only [State.addJob, hjobs, List.nil_append, List.map_cons, List.map_nil,
          List.mem_singleton] at hk
        rw [accepted_append, List.length_append, hk, hstands.1, doneByProduction, hproduction]
        rfl
      · obtain ⟨haccepts, hjobs⟩ := accepts_nothing hadds hstep
        exact hkeeps (hjobs ▸ List.Subset.refl _) haccepts
    | @advances _ j hj hstep =>
      have heffect := JobEffect.of_step hstep
      generalize doneByJob s _ = e at heffect hkeeps
      cases heffect with
      | works _ hjobs => exact hkeeps (by simp [hjobs]) rfl
      | delivers | reports => exact hkeeps (by simp) rfl
      | leaves => exact hkeeps (List.map_subset _ (List.filter_subset_self _)) rfl
    | reads | dismisses | leaves | cancels | passes => exact hkeeps (List.Subset.refl _) rfl

/-- What reports a failure is a job. -/
theorem exists_of_reports (hmove : Move p s e s') (he : e = .reports i f) :
    ∃ j ∈ s.jobs, j.index = i := by
  cases hmove with
  | produces =>
    unfold doneByProduction at he
    split at he <;> cases he
  | @advances _ j hj hstep =>
    have heffect := JobEffect.of_step hstep
    rw [he] at heffect
    cases heffect with
    | reports => exact ⟨j, State.mem_of_job? hj, rfl⟩
  | reads | dismisses | leaves | cancels | passes => cases he

/-- One worker takes one stray at most, for the request after the one that failed. -/
theorem strays_eq (hlaunch : p.launch scene false = .ok s₀) (hworkers : p.batch.workers = 1)
    (hcourse : Course p s₀ h s) :
    strays h = [] ∨ ∃ i f, .reports i f ∈ h ∧ strays h = [i + 1] := by
  rcases exists_first h with hquiet | ⟨before, i, f, after, rfl, hquiet⟩
  · exact .inl (strays_eq_nil hquiet)
  have haccepted := (Census.of_course hlaunch hcourse).accepted
  obtain ⟨s₁, s₂, hbefore, hmove, hafter⟩ := hcourse.exists_cons
  have hmany : (accepted after).length ≤ 1 :=
    (left_of_course hafter (halts_of_stops hmove trivial)).2
  -- The job that reports is the last one so far.
  have hlast : i + 1 = (accepted before).length := by
    obtain ⟨j, hj, rfl⟩ := exists_of_reports hmove rfl
    exact last_accepted hlaunch hworkers hbefore j hj
  have hreports :
      accepted (before ++ .reports i f :: after) = accepted before ++ accepted after := by
    rw [accepted_append]
    rfl
  rw [strays_of_quiet hquiet]
  match hstrays : accepted after with
  | [] => exact .inl rfl
  | [k] =>
    rw [hreports, hstrays, List.length_append, List.length_singleton, List.range_succ] at haccepted
    obtain ⟨-, hk⟩ := List.append_inj' haccepted rfl
    exact .inr ⟨i, f, by simp, by rw [hk, hlast]⟩
  | _ :: _ :: _ => simp [hstrays] at hmany

/-! ## Why the outlet is canceled -/

theorem ending?_append (h h' : List Deed) : ending? (h ++ h') = (ending? h).or (ending? h') :=
  List.findSome?_append

/-- Nobody has canceled the outlet but a job that failed, or the reader after the end. -/
structure Reasons (h : List Deed) (s : State σ) : Prop where
  canceled : s.canceled = false
  told : ∀ f, ending? h = some (some f) → s.outlet.canceled
  reported : s.outlet.canceled → ending? h = some none ∨ ∃ i f, .reports i f ∈ h

namespace Reasons

theorem start (hlaunch : p.launch scene false = .ok s) : Reasons [] s := by
  obtain rfl := eq_start_of_launch hlaunch
  exact ⟨rfl, nofun, nofun⟩

/-- What cancels nothing, and tells the reader of no end. -/
theorem congr (hr : Reasons h s) (hcanceled : s'.canceled = s.canceled)
    (hshut : s'.outlet.canceled = s.outlet.canceled) (hended : ending? [e] = none) :
    Reasons (h ++ [e]) s' := by
  refine ⟨hcanceled.trans hr.canceled, fun f htold => ?_, fun hshut' => ?_⟩
  · rw [ending?_append, hended, Option.or_none] at htold
    exact hshut.trans (hr.told f htold)
  · rw [ending?_append, hended, Option.or_none]
    exact (hr.reported (hshut.symm.trans hshut')).imp id fun ⟨i, f, hmem⟩ => ⟨i, f, by simp [hmem]⟩

/-- What leaves the outlet canceled. -/
theorem of_shut (hcanceled : s.canceled = false) (hshut : s.outlet.canceled)
    (hreported : ending? h = some none ∨ ∃ i f, .reports i f ∈ h) : Reasons h s :=
  ⟨hcanceled, fun _ _ => hshut, fun _ => hreported⟩

theorem move (hr : Reasons h s) (hproducer : p.producer = .ofList requests)
    (hmove : Move p s e s') (hreader : e.Collects h) (hcancels : e ≠ .cancels) :
    Reasons (h ++ [e]) s' := by
  cases hmove with
  | produces hstep =>
    obtain ⟨hshut, -, hcanceled⟩ := (Advance.of_produce hproducer hr.canceled hstep).shut
    exact hr.congr hcanceled hshut (works_doneByProduction p s).ending?
  | @advances _ j hj hstep =>
    have heffect := JobEffect.of_step hstep
    generalize doneByJob s _ = e at heffect
    cases heffect with
    | works _ _ _ houtlet hcanceled => exact hr.congr hcanceled (congrArg _ houtlet) rfl
    | delivers | leaves => exact hr.congr rfl rfl rfl
    | @reports f =>
      exact of_shut hr.canceled (by simp [State.setWork]) (.inr ⟨j.index, f, by simp⟩)
  | reads _ hnext =>
    have hended : ending? h = none := ending?_eq_none.2 hreader
    cases Outlet.Reading.of_next hnext with
    | fails hshut =>
      have hreported := (hr.reported hshut).resolve_left (by simp [hended])
      obtain ⟨i, f, hmem⟩ := hreported
      exact of_shut hr.canceled hshut (.inr ⟨i, f, by simp [hmem]⟩)
    | gives => exact hr.congr rfl rfl rfl
    | ends hopen =>
      have hended' : ending? (h ++ [.reads (.ok none)]) = some none := by
        rw [ending?_append, hended]
        rfl
      refine ⟨hr.canceled, fun f htold => ?_, fun _ => .inl hended'⟩
      simp [hended'] at htold
  | dismisses => exact hreader.elim
  | leaves =>
    obtain ⟨failure, hended⟩ := exists_ending hreader
    refine of_shut hr.canceled (by simp [Outlet.close]) ?_
    cases failure with
    | none => exact .inl (by rw [ending?_append, hended]; rfl)
    | some f =>
      have hreported := (hr.reported (hr.told f hended)).resolve_left (by simp [hended])
      obtain ⟨i, f, hmem⟩ := hreported
      exact .inr ⟨i, f, by simp [hmem]⟩
  | cancels => exact absurd rfl hcancels
  | passes => exact hr.congr rfl rfl rfl

theorem of_collecting (hlaunch : p.launch scene false = .ok s₀)
    (hproducer : p.producer = .ofList requests) (hrun : Collecting p s₀ h s)
    (hcancels : .cancels ∉ h) : Reasons h s := by
  induction hrun with
  | start => exact start hlaunch
  | next _ hmove hreader ih =>
    rw [List.mem_append, not_or, List.mem_singleton] at hcancels
    exact (ih hcancels.1).move hproducer hmove hreader (Ne.symm hcancels.2)

end Reasons

/-! ## The batch without the loop -/

/-- Nothing that was sent is taken back. -/
theorem sends_prefix_step (hstep : Batch.step p s j = some s') :
    s.scene.log.sends <+: s'.scene.log.sends := by
  cases hwork : j.work with
  | begins =>
    simp only [Batch.step, hwork, State.act_eq, Option.some.injEq] at hstep
    subst hstep
    exact s.scene.sends_prefix_perform (j.begin p s)
  | calls call wake wait =>
    simp only [Batch.step, hwork, State.act_eq] at hstep
    split at hstep <;> cases hstep
    exact s.scene.sends_prefix_perform (resumed p s call wait)
  | handles | answers | delivers | fails | reports | stops | leaves =>
    exact (sends_step_of_idle (by simp [hwork]) (by simp [hwork]) hstep) ▸ List.prefix_refl _

theorem sends_prefix_move (hmove : Move p s e s') :
    s.scene.log.sends <+: s'.scene.log.sends := by
  cases hmove with
  | produces hstep => exact sends_produce hstep ▸ List.prefix_refl _
  | advances _ hstep => exact sends_prefix_step hstep
  | reads | dismisses | leaves | cancels | passes => exact List.prefix_refl _

/-- Only the reader takes the cause from an outlet that is canceled. -/
theorem cause_move (hmove : Move p s e s') (hshut : s.outlet.canceled)
    (hreads : ∀ answer, e ≠ .reads answer) : s'.outlet.cause = s.outlet.cause := by
  cases hmove with
  | produces hstep =>
    obtain ⟨_, hshown⟩ := exists_productionStep hstep
    cases hshown with
    | fails => exact congrArg _ (Outlet.cancel_of_canceled hshut _)
    | drainsCanceled =>
      change (s.outlet.cancel _).cause = _
      rw [Outlet.cancel_of_canceled hshut]
    | _ => rfl
  | advances _ hstep =>
    have heffect := JobEffect.of_step hstep
    generalize doneByJob s _ = e at heffect
    cases heffect with
    | works _ _ _ houtlet => exact congrArg _ houtlet
    | reports => exact congrArg _ (Outlet.cancel_of_canceled hshut _)
    | delivers | leaves => rfl
  | reads => exact absurd rfl (hreads _)
  | dismisses => exact congrArg _ (Outlet.cancel_of_canceled hshut _)
  | leaves =>
    change (s.outlet.cancel _).cause = _
    rw [Outlet.cancel_of_canceled hshut]
  | cancels | passes => rfl

/-- After a stray was accepted, the loop is over. What the batch has sent begins as in the loop, and
the reader has heard of the loop's failure or is to hear of it next. -/
structure Strayed (p : Plan σ) (requests : List Request) (On : Instant → Instant → Prop)
    (scene : Scene σ) (h : List Deed) (s : State σ) (l : Loop σ) : Prop where
  reaches : Loop.Reaches p requests On scene l
  sends : l.scene.log.sends <+: s.scene.log.sends
  taken : taken h <+: l.outcomes
  strays : strays h ≠ []
  shut : s.outlet.canceled
  told : ∃ f, l.stage = .over (some f) ∧
    (ending? h = none ∧ s.outlet.cause = some f ∨ ending? h = some (some f))

/-- What becomes a job is what production has a worker for. -/
theorem exists_of_accepts (hmove : Move p s e s') (he : e = .accepts i) :
    ∃ request, s.production = .adds i request ∧
      s' = { s.addJob i request with production := .checks (i + 1) } := by
  cases hmove with
  | produces hstep =>
    unfold doneByProduction at he
    split at he
    · cases he
    · next k request hproduction =>
      cases he
      simp only [Batch.produce, hproduction, Option.some.injEq] at hstep
      exact ⟨request, hproduction, hstep.symm⟩
    · cases he
  | advances _ hstep =>
    have heffect := JobEffect.of_step hstep
    rw [he] at heffect
    cases heffect
  | reads | dismisses | leaves | cancels | passes => cases he

/-- A job that is accepted after the end of the loop is a stray. -/
theorem Solo.stray (hs : Solo p requests On scene h s l) (hr : Reasons h s)
    (hstage : l.stage = .over (some f)) (hmove : Move p s (.accepts i) s') :
    Strayed p requests On scene (h ++ [.accepts i]) s' l := by
  obtain ⟨request, hproduction, rfl⟩ := exists_of_accepts hmove rfl
  obtain ⟨rest, hrest, hphase⟩ := hs.phase
  -- The job that failed has left, and it had canceled the outlet before.
  have hshut : s.outlet.canceled := by
    rw [hstage] at hphase
    generalize hover : Loop.Stage.over (some f) = stage at hphase
    cases hphase with
    | idle | holds | exhausted | done => cases hover
    | busy _ _ _ hdoing => exact absurd hover.symm hdoing.stage_ne_over
    | doomed hdoomed hopen =>
      cases hdoomed with
      | stays _ hadds => exact absurd hproduction (hadds _ _)
      | left hjobs =>
        rcases Bool.eq_false_or_eq_true s.outlet.canceled with hshut | hcanceled
        · exact hshut
        · obtain ⟨-, j, hj, -⟩ := hopen hcanceled
          cases hjobs.symm.trans hj
  have htold (failure : Option Failure) (hended : ending? h = some failure) : failure = some f :=
    Loop.Stage.over.inj ((hs.told failure hended).1.symm.trans hstage)
  have hreported : ∃ i f, .reports i f ∈ h :=
    (hr.reported hshut).resolve_left fun hended => nomatch htold none hended
  have hended : ending? (h ++ [.accepts i]) = ending? h := by
    rw [ending?_append]
    exact Option.or_none
  obtain ⟨k, g, hmem⟩ := hreported
  refine ⟨hs.reaches, hs.lags.sends ▸ List.prefix_refl _, ?_, strays_accepts_ne_nil hmem i, hshut,
    f, hstage, ?_⟩
  · rw [taken_append, hrest]
    exact (List.append_nil (Session.taken h)).symm ▸ List.prefix_append _ _
  · rw [hended]
    match hended : ending? h with
    | none => exact .inl ⟨rfl, hs.cause f hstage hshut hended⟩
    | some failure => exact .inr (congrArg some (htold failure hended))

/-- Whatever happens then, the reader hears of nothing else. -/
theorem Strayed.move (hs : Strayed p requests On scene h s l) (hmove : Move p s e s')
    (hreader : e.Collects h) : Strayed p requests On scene (h ++ [e]) s' l := by
  obtain ⟨f, hstage, hover⟩ := hs.told
  have hnext (htaken : Session.taken [e] = [])
      (hover : ending? (h ++ [e]) = none ∧ s'.outlet.cause = some f ∨
        ending? (h ++ [e]) = some (some f)) : Strayed p requests On scene (h ++ [e]) s' l := {
    reaches := hs.reaches
    sends := hs.sends.trans (sends_prefix_move hmove)
    taken := by rw [taken_append, htaken, List.append_nil]; exact hs.taken
    strays := strays_append_ne_nil hs.strays _
    shut := (Stays.move hmove).shut hs.shut
    told := ⟨f, hstage, hover⟩ }
  by_cases hreads : ∃ answer, e = .reads answer
  · obtain ⟨answer, rfl⟩ := hreads
    have hended : ending? h = none := ending?_eq_none.2 hreader
    obtain ⟨outlet, hread⟩ := next_of_reads hmove rfl
    rcases hover with ⟨-, hcause⟩ | htold
    · cases Outlet.Reading.of_next hread with
      | fails => exact hnext rfl (.inr (by rw [ending?_append, hended, hcause]; rfl))
      | gives hopen => simp [hs.shut] at hopen
      | ends hopen => simp [hs.shut] at hopen
    · cases hended.symm.trans htold
  · have hquiet (answer : Except Failure (Option Outcome)) : e ≠ .reads answer :=
      fun he => hreads ⟨answer, he⟩
    have hcause := cause_move hmove hs.shut hquiet
    have hnothing : Session.taken [e] = [] ∧ ending? [e] = none := by
      cases e with
      | reads answer => exact absurd rfl (hquiet answer)
      | _ => exact ⟨rfl, rfl⟩
    refine hnext hnothing.1 ?_
    rw [ending?_append, hnothing.2, Option.or_none, hcause]
    exact hover

end Batch.Session

end Courier
