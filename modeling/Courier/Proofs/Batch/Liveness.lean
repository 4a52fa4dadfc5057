import Courier.Proofs.Batch.Results
import Courier.Proofs.Batch.Stop

/-!
# Collecting does not get stuck

Somebody who collects the results of a batch reads them up to their end and leaves then
(`Session.Collecting`). In the meantime the caller may cancel the batch, at any moment, and jobs
and the producer may fail or crash. As long as the results have not ended, production, a job or
the reader can take a step, at once or when a call has slept long enough. And together they take
no more steps than the requests allow for that the producer gives, so that the results end unless
nobody moves any more (`Session.no_deadlock`).
-/

namespace Courier.Batch.Session

variable {σ : Type} {p : Plan σ} {scene : Scene σ} {canceled : Bool} {s s' s₀ : State σ}
  {e : Deed} {h : List Deed} {bound : Nat}

/-- A step of production, of a job, or of the reader who reads on. -/
def Deed.isStep : Deed → Bool
  | .dismisses _ => false
  | .leaves => false
  | .cancels => false
  | .passes => false
  | _ => true

/-- How many steps were taken. -/
def steps (h : List Deed) : Nat :=
  h.countP Deed.isStep

/-- What tells the reader that there are no more results, or why. -/
def Deed.isEnd : Deed → Bool
  | .reads (.ok none) => true
  | .reads (.error _) => true
  | _ => false

/-- The reader has come to the end of the results. -/
def returned (h : List Deed) : Bool :=
  h.any Deed.isEnd

/-- What a reader who collects may do : read until the end, and leave then. -/
def Deed.Collects (h : List Deed) : Deed → Prop
  | .reads _ => returned h = false
  | .leaves => returned h
  | .dismisses _ => False
  | _ => True

/-- The courses of a session whose reader collects the results. -/
inductive Collecting (p : Plan σ) (s₀ : State σ) : List Deed → State σ → Prop where
  | start : Collecting p s₀ [] s₀
  | next {h : List Deed} {e : Deed} {s s' : State σ} (hrun : Collecting p s₀ h s)
      (hmove : Move p s e s') (hreader : e.Collects h) : Collecting p s₀ (h ++ [e]) s'

theorem Collecting.course (hrun : Collecting p s₀ h s) : Course p s₀ h s := by
  induction hrun with
  | start => exact .nil
  | next _ hmove _ ih => exact ih.snoc hmove

theorem returned_concat (h : List Deed) (e : Deed) :
    returned (h ++ [e]) = (returned h || e.isEnd) := by
  simp [returned]

/-! ## Steps of production and of jobs -/

/-- What production or a job does. -/
def Deed.Works : Deed → Prop
  | .reads _ => False
  | .dismisses _ => False
  | .leaves => False
  | .cancels => False
  | .passes => False
  | _ => True

theorem works_doneByProduction (p : Plan σ) (s : State σ) : (doneByProduction p s).Works := by
  unfold doneByProduction
  split <;> trivial

theorem works_doneByJob (s : State σ) (j : Job) : (doneByJob s j).Works := by
  unfold doneByJob
  split
  · split <;> trivial
  · trivial
  · trivial
  · trivial

namespace Deed.Works

theorem isStep (he : e.Works) : e.isStep := by
  cases e <;> trivial

theorem collects (he : e.Works) (h : List Deed) : e.Collects h := by
  cases e <;> trivial

theorem isEnd (he : e.Works) : e.isEnd = false := by
  cases e <;> trivial

end Deed.Works

/-! ## Somebody can move -/

/-- Only a reader who leaves closes the outlet. -/
theorem closed_move (hmove : Move p s e s') (hne : e ≠ .leaves) :
    s'.outlet.closed = s.outlet.closed := by
  cases hmove with
  | produces hstep =>
    obtain ⟨_, hshown⟩ := exists_productionStep hstep
    cases hshown with
    | fails | drainsCanceled => simp [State.endProduction, Outlet.dropWriter]
    | _ => rfl
  | advances _ hstep =>
    have heffect := JobEffect.of_step hstep
    generalize doneByJob s _ = e at heffect
    cases heffect with
    | works _ _ _ houtlet => exact congrArg Outlet.closed houtlet
    | reports => simp [State.setWork]
    | delivers | leaves => rfl
  | reads _ hnext => cases Outlet.Reading.of_next hnext <;> rfl
  | dismisses => simp
  | leaves => exact absurd rfl hne
  | cancels | passes => rfl

/-- A reader who collects does not leave before the end. -/
theorem Collecting.closed (hlaunch : p.launch scene canceled = .ok s₀) (hrun : Collecting p s₀ h s)
    (hreturned : returned h = false) : s.outlet.closed = false := by
  induction hrun with
  | start =>
    obtain rfl := eq_start_of_launch hlaunch
    rfl
  | @next h e s s' _ hmove hreader ih =>
    rw [returned_concat, Bool.or_eq_false_iff] at hreturned
    refine (closed_move hmove ?_).trans (ih hreturned.1)
    rintro rfl
    simp [Deed.Collects, hreturned.1] at hreader

/-- Until the results have ended, somebody can take a step. -/
theorem Collecting.exists_move (hlaunch : p.launch scene canceled = .ok s₀)
    (hworkers : 1 ≤ p.batch.workers) (hrun : Collecting p s₀ h s) (hreturned : returned h = false) :
    ∃ t, s.scene.clock.now ≤ t ∧ ∃ e s', Move p { s with scene := s.scene.later t } e s' ∧
      e.isStep ∧ e.Collects h := by
  have hcourse := hrun.course
  have hcapacity : 0 < s.outlet.capacity := by
    rw [(Flow.of_course hlaunch hcourse).capacity]
    exact Nat.lt_of_lt_of_le Nat.zero_lt_one (Nat.le_max_right _ _)
  rcases exists_mover (Census.of_course hlaunch hcourse).distinct hcapacity
    (Ending.of_course hlaunch hcourse).writers hworkers with
    hnext | ⟨j, t, hj, hle, hstep⟩ | hstep
  · obtain ⟨⟨answer, outlet⟩, hnext⟩ := Option.isSome_iff_exists.1 hnext
    exact ⟨_, Int.le_refl _, _, _, .reads (hrun.closed hlaunch hreturned) hnext, rfl, hreturned⟩
  · obtain ⟨s', hstep⟩ := Option.isSome_iff_exists.1 hstep
    have hworks := works_doneByJob { s with scene := s.scene.later t } j
    exact ⟨t, hle, _, s', .advances hj hstep, hworks.isStep, hworks.collects h⟩
  · obtain ⟨s', hstep⟩ := Option.isSome_iff_exists.1 hstep
    have hworks := works_doneByProduction p s
    exact ⟨_, Int.le_refl _, _, s', .produces hstep, hworks.isStep, hworks.collects h⟩

/-! ## All steps together -/

/-- The steps that are still to be taken until the results have ended, if the producer gives so
many requests in all. -/
def stepsLeft (p : Plan σ) (bound : Nat) (h : List Deed) (s : State σ) : Nat :=
  s.rank p bound + if returned h then 0 else 1

/-- The producer is asked at the index after those of its requests so far. -/
theorem Census.eq_of_asks {i : Nat} (hc : Census p h s) (hproduction : s.production = .asks i) :
    i = (yielded h).length := by
  have hstands := hc.stands
  rw [hproduction] at hstands
  exact hstands.1.trans hstands.2.symm

/-- The job that production adds is a new one. -/
theorem Census.job?_of_adds {i : Nat} {request : Request} (hc : Census p h s)
    (hproduction : s.production = .adds i request) : s.job? i = none := by
  have hstands := hc.stands
  rw [hproduction] at hstands
  cases hjob : s.job? i with
  | none => rfl
  | some j =>
    have hindex : i ∈ s.jobs.map Job.index :=
      List.mem_map.2 ⟨j, State.mem_of_job? hjob, State.job?_index hjob⟩
    have hmem : i ∈ Session.accepted h := hc.present.subset (List.mem_append_left _ hindex)
    rw [hc.accepted, List.mem_range, hstands.1] at hmem
    exact absurd hmem (Nat.lt_irrefl _)

/-- A step leaves less to do, and what is no step leaves not more. -/
theorem stepsLeft_move (hc : Census p h s) (hb : Bounded bound s) (hmove : Move p s e s')
    (hreader : e.Collects h) (hyielded : (yielded (h ++ [e])).length ≤ bound) :
    Bounded bound s' ∧ steps [e] + stepsLeft p bound (h ++ [e]) s' ≤ stepsLeft p bound h s := by
  have hleft (hne : e.isEnd = false) (hrank : s'.rank p bound + steps [e] ≤ s.rank p bound) :
      steps [e] + stepsLeft p bound (h ++ [e]) s' ≤ stepsLeft p bound h s := by
    simp only [stepsLeft, returned_concat, hne, Bool.or_false]
    omega
  have hworks (hworks : e.Works) (hrank : s'.rank p bound < s.rank p bound) :
      steps [e] + stepsLeft p bound (h ++ [e]) s' ≤ stepsLeft p bound h s :=
    hleft hworks.isEnd (by simpa [steps, hworks.isStep] using Nat.succ_le_of_lt hrank)
  cases hmove with
  | produces hstep =>
    have hi (i : Nat) (request : Request) (hproduction : s.production = .asks i)
        (hanswer : (p.producer i s.scene.world).1 = .ok (some request)) : i < bound := by
      have hgiven : yielded [doneByProduction p s] = [request] := by
        simp [yielded, doneByProduction, hproduction, hanswer]
      rw [yielded_append, hgiven, List.length_append, ← hc.eq_of_asks hproduction] at hyielded
      exact hyielded
    obtain ⟨hb', hrank⟩ := hb.produce hi (fun _ _ => hc.job?_of_adds) (.of_produce hstep)
    exact ⟨hb', hworks (works_doneByProduction p s) hrank⟩
  | advances hj hstep =>
    obtain ⟨hb', hrank⟩ := hb.step hj (.of_step hstep)
    exact ⟨hb', hworks (works_doneByJob s _) hrank⟩
  | @reads answer outlet _ hnext =>
    refine ⟨⟨hb.distinct, hb.sound, hb.inHand⟩, ?_⟩
    have hrank := State.rank_setOutlet (p := p) bound s outlet
    have hrunning : returned h = false := hreader
    cases Outlet.Reading.of_next hnext with
    | fails | ends =>
      -- The reader has one step less to do, since it has come to the end.
      have hsame := Nat.add_right_cancel hrank
      simp only [steps, stepsLeft, returned_concat, hrunning, Deed.isStep, Deed.isEnd,
        List.countP_singleton, Bool.or_true, Bool.false_eq_true, if_true, if_false]
      exact Nat.le_of_eq (by rw [hsame, Nat.add_comm])
    | gives _ hbuffer =>
      refine hleft rfl ?_
      simp only [steps, hbuffer, Deed.isStep, List.countP_singleton, if_true, List.length_cons]
        at hrank ⊢
      omega
  | dismisses => exact hreader.elim
  | leaves =>
    have hrank := State.rank_setOutlet (p := p) bound s s.outlet.close
    refine ⟨⟨hb.distinct, hb.sound, hb.inHand⟩, hleft rfl ?_⟩
    simp only [steps, Outlet.close, Deed.isStep, List.countP_singleton, List.length_nil,
      Bool.false_eq_true, if_false] at hrank ⊢
    omega
  | cancels | passes => exact ⟨⟨hb.distinct, hb.sound, hb.inHand⟩, hleft rfl (Nat.le_refl _)⟩

/-- All steps of a course together are no more than were to be taken at its beginning. -/
theorem Collecting.steps_add_stepsLeft_le (hlaunch : p.launch scene canceled = .ok s₀)
    (hrun : Collecting p s₀ h s) (hyielded : (yielded h).length ≤ bound) :
    Bounded bound s ∧ steps h + stepsLeft p bound h s ≤ stepsPerJob * bound + 5 := by
  induction hrun with
  | start =>
    refine ⟨Bounded.start bound hlaunch, ?_⟩
    rw [stepsLeft, rank_launch hlaunch]
    simp [steps, returned]
  | @next h e s s' hrun hmove hreader ih =>
    have hle : (yielded h).length ≤ bound := by
      rw [yielded_append, List.length_append] at hyielded
      omega
    obtain ⟨hb, hsteps⟩ := ih hle
    obtain ⟨hb', hmoved⟩ :=
      stepsLeft_move (Census.of_course hlaunch hrun.course) hb hmove hreader hyielded
    refine ⟨hb', ?_⟩
    have hcount : steps (h ++ [e]) = steps h + steps [e] := List.countP_append
    omega

/-- What production and the jobs do gives a request only if the producer does. -/
theorem exists_of_yielded (hmove : Move p s e s') (hyielded : yielded [e] ≠ []) :
    ∃ i request, s.production = .asks i ∧
      (p.producer i s.scene.world).1 = .ok (some request) ∧ yielded [e] = [request] := by
  cases hmove with
  | produces =>
    unfold doneByProduction at hyielded ⊢
    split at hyielded
    · next i hproduction =>
      match hanswer : (p.producer i s.scene.world).1 with
      | .ok (some request) => exact ⟨i, request, hproduction, hanswer, by simp [yielded]⟩
      | .ok none | .error _ => simp [yielded, hanswer] at hyielded
    · exact absurd rfl hyielded
    · exact absurd rfl hyielded
  | advances _ hstep =>
    have heffect := JobEffect.of_step hstep
    generalize doneByJob s _ = e at heffect hyielded
    cases heffect <;> exact absurd rfl hyielded
  | reads | dismisses | leaves | cancels | passes => exact absurd rfl hyielded

/-- A producer that has no request at an index gives no more requests than that. -/
theorem length_yielded_le (hlaunch : p.launch scene canceled = .ok s₀)
    (hends : ∀ world request, (p.producer bound world).1 ≠ .ok (some request))
    (hcourse : Course p s₀ h s) : (yielded h).length ≤ bound := by
  induction hcourse with
  | nil => exact Nat.zero_le _
  | @snoc h e s s' hcourse hmove ih =>
    rw [yielded_append, List.length_append]
    by_cases hnone : yielded [e] = []
    · simpa [hnone] using ih
    · obtain ⟨i, request, hproduction, hanswer, hgiven⟩ := exists_of_yielded hmove hnone
      have hi := (Census.of_course hlaunch hcourse).eq_of_asks hproduction
      have hne : i ≠ bound := by
        rintro rfl
        exact hends _ _ hanswer
      rw [hgiven, List.length_singleton]
      omega

/-- What somebody's choice comes to. -/
def Choice.Comes : Choice → Deed → Prop
  | .produces, e | .advances _, e => e.Works
  | .reads, e => ∃ answer, e = .reads answer
  | .dismisses f, e => e = .dismisses f
  | .leaves, e => e = .leaves
  | .cancels, e => e = .cancels
  | .passes _, e => e = .passes

theorem Choice.comes_of_move? {choice : Choice} (hmove : move? p s choice = some (e, s')) :
    choice.Comes e := by
  cases choice with
  | produces =>
    obtain ⟨_, _, heq⟩ := Option.map_eq_some_iff.1 hmove
    cases heq
    exact works_doneByProduction p s
  | advances =>
    obtain ⟨j, _, hstep⟩ := Option.bind_eq_some_iff.1 hmove
    obtain ⟨_, _, heq⟩ := Option.map_eq_some_iff.1 hstep
    cases heq
    exact works_doneByJob s j
  | reads =>
    simp only [move?] at hmove
    split at hmove
    · cases hmove
    · obtain ⟨⟨answer, _⟩, _, heq⟩ := Option.map_eq_some_iff.1 hmove
      cases heq
      exact ⟨answer, rfl⟩
  | cancels =>
    cases hmove
    rfl
  | dismisses | leaves | passes =>
    simp only [move?] at hmove
    split at hmove <;> cases hmove
    rfl

/-- What others than the reader do. -/
def Choice.isOthers : Choice → Bool
  | .reads => false
  | .dismisses _ => false
  | .leaves => false
  | _ => true

/-- A reader who waits collects. -/
theorem Collecting.play : ∀ (choices : List Choice) {h h' : List Deed} {s s' : State σ},
    Collecting p s₀ h s → choices.all Choice.isOthers → Session.play p choices s = some (h', s') →
    Collecting p s₀ (h ++ h') s'
  | [], h, _, s, _, hrun, _, hplay => by
    cases hplay
    rwa [List.append_nil]
  | choice :: later, h, _, s, _, hrun, hothers, hplay => by
    obtain ⟨hother, hlater⟩ := Bool.and_eq_true_iff.1 hothers
    obtain ⟨⟨e, s₁⟩, hmove?, hplay⟩ := Option.bind_eq_some_iff.1 hplay
    obtain ⟨⟨h', s₂⟩, hplay, heq⟩ := Option.map_eq_some_iff.1 hplay
    cases heq
    have hreader : e.Collects h := by
      have hcomes := Choice.comes_of_move? hmove?
      cases choice with
      | produces | advances => exact Deed.Works.collects hcomes h
      | cancels | passes =>
        cases hcomes
        trivial
      | reads | dismisses | leaves => cases hother
    rw [List.append_cons]
    exact (hrun.next (.of_move? hmove?) hreader).play later hlater hplay

/-! ## Collecting -/

/-- Collecting does not get stuck. Until the results have ended, production, a job or the reader
can take a step, at once or when a call has slept long enough, whatever the caller, the jobs and
the producer have done. All steps together are bounded by the number of requests that the producer
gave, and if it has none at an index, it gives no more than that. -/
theorem no_deadlock (hlaunch : p.launch scene canceled = .ok s₀) (hworkers : 1 ≤ p.batch.workers)
    (hrun : Collecting p s₀ h s) :
    (returned h = false →
      ∃ t, s.scene.clock.now ≤ t ∧ ∃ e s', Move p { s with scene := s.scene.later t } e s' ∧
        e.isStep ∧ e.Collects h) ∧
    steps h ≤ stepsPerJob * (yielded h).length + 5 ∧
    (∀ bound, (∀ world request, (p.producer bound world).1 ≠ .ok (some request)) →
      (yielded h).length ≤ bound ∧ steps h ≤ stepsPerJob * bound + 5) := by
  have hsteps (bound : Nat) (hle : (yielded h).length ≤ bound) :
      steps h ≤ stepsPerJob * bound + 5 := by
    have hleft := (hrun.steps_add_stepsLeft_le hlaunch hle).2
    omega
  refine ⟨hrun.exists_move hlaunch hworkers, hsteps _ (Nat.le_refl _), fun bound hends => ?_⟩
  have hle := length_yielded_le hlaunch hends hrun.course
  exact ⟨hle, hsteps bound hle⟩

/-- The caller cancels a batch while its first request is on its way. The job is left without an
answer, and production has not noticed yet. -/
theorem no_deadlock_relay :
    let scene : Scene Nat := { clock := ⟨0, 0⟩, world := 0 }
    ∃ s₀ h s, relay.launch scene false = .ok s₀ ∧ Collecting relay s₀ h s ∧ .cancels ∈ h ∧
      returned h = false ∧
      (∃ t, s.scene.clock.now ≤ t ∧ ∃ e s', Move relay { s with scene := s.scene.later t } e s' ∧
        e.isStep ∧ e.Collects h) ∧
      (yielded h).length = 1 ∧ steps h ≤ stepsPerJob * 1 + 5 ∧ steps h ≤ stepsPerJob * 2 + 5 := by
  intro scene
  have hlaunch : relay.launch scene false = .ok (relay.start scene false) := if_pos (by decide)
  have hends (world : Nat) (request : Request) :
      (relay.producer 2 world).1 ≠ .ok (some request) := by simp [relay, Producer.ofList]
  have hshown : ((play relay (List.replicate 5 .produces ++ [.advances 0])
      (relay.start scene false)).bind fun before =>
        (play relay [.advances 0] { before.2 with canceled := true }).map fun after =>
          (returned (before.1 ++ [.cancels] ++ after.1),
            (yielded (before.1 ++ [.cancels] ++ after.1)).length)) = some (false, 1) := by
    decide +kernel
  obtain ⟨⟨h, s₁⟩, hplay, hrest⟩ := Option.bind_eq_some_iff.1 hshown
  obtain ⟨⟨h', s⟩, hplay', heq⟩ := Option.map_eq_some_iff.1 hrest
  obtain ⟨hreturned, hyielded⟩ := Prod.mk.inj heq
  have hbefore : Collecting relay _ h s₁ :=
    List.nil_append h ▸ Collecting.start.play _ (by decide) hplay
  have hrun := (hbefore.next .cancels trivial).play _ (by decide) hplay'
  obtain ⟨hmove, hsteps, hbound⟩ := no_deadlock hlaunch (by decide) hrun
  exact ⟨_, _, s, hlaunch, hrun, by simp, hreturned, hmove hreturned, hyielded, hyielded ▸ hsteps,
    (hbound 2 hends).2⟩

end Courier.Batch.Session
