import Courier.Proofs.Batch.Jobs
import Courier.Proofs.Batch.Steps
import Courier.Proofs.Path

/-!
# Sessions

A session is a run of a batch in which everybody may do anything at any time (`Session.Move`). The
production and the jobs take their steps, the reader reads on or not, cancels the outlet or leaves
it, the caller cancels the batch, and time passes. What they do is the history of a session.

`Session.Census` says which jobs there are after a history : those that were accepted and have not
finished, never more than there are places for, and one request at most waits to be accepted. It
holds all along (`Session.Census.of_course`).
-/

namespace Courier.Batch.Session

variable {σ : Type}

/-- What somebody does in a session. -/
inductive Deed where
  /-- Production asks the producer for the request at an index. -/
  | asks (index : Nat) (answer : Answer Failure (Option Request))
  /-- A request becomes a job. -/
  | accepts (index : Nat)
  /-- A job hands its response to the outlet. -/
  | delivers (index : Nat)
  /-- A job reports to the outlet why the batch fails. -/
  | reports (index : Nat) (f : Failure)
  /-- A job is done, and its worker is free. -/
  | finishes (index : Nat)
  | reads (answer : Except Failure (Option Outcome))
  /-- The reader cancels the outlet. -/
  | dismisses (cause : Failure)
  /-- The reader leaves. -/
  | leaves
  /-- The caller cancels the batch. -/
  | cancels
  /-- Production or a job takes another step. -/
  | moves
  /-- Time passes. -/
  | passes

/-! ## Courses -/

section

variable (p : Plan σ)

/-- What production does in a step. -/
def doneByProduction (s : State σ) : Deed :=
  match s.production with
  | .asks index => .asks index (p.producer index s.scene.world).1
  | .adds index _ => .accepts index
  | _ => .moves

/-- What a job does in a step. -/
def doneByJob (s : State σ) (j : Job) : Deed :=
  match j.work with
  | .delivers _ => if s.outlet.refuses then .moves else .delivers j.index
  | .reports f => .reports j.index f
  | .leaves => .finishes j.index
  | _ => .moves

/-- What can happen in a session. The reader does something until it leaves. -/
inductive Move : State σ → Deed → State σ → Prop where
  | produces {s s' : State σ} (h : produce p s = some s') : Move s (doneByProduction p s) s'
  | advances {s s' : State σ} {j : Job} (hj : s.job? j.index = some j) (h : step p s j = some s') :
      Move s (doneByJob s j) s'
  | reads {s : State σ} {answer : Except Failure (Option Outcome)} {outlet : Outlet Outcome}
      (hreader : s.outlet.closed = false) (h : s.outlet.next = some (answer, outlet)) :
      Move s (.reads answer) { s with outlet }
  | dismisses {s : State σ} {f : Failure} (hreader : s.outlet.closed = false) :
      Move s (.dismisses f) { s with outlet := s.outlet.cancel f }
  | leaves {s : State σ} (hreader : s.outlet.closed = false) :
      Move s .leaves { s with outlet := s.outlet.close }
  | cancels {s : State σ} : Move s .cancels { s with canceled := true }
  | passes {s : State σ} {t : Instant} (h : s.scene.clock.now ≤ t) :
      Move s .passes { s with scene := s.scene.later t }

/-- The courses of a session from a state on, with their histories. -/
abbrev Course : State σ → List Deed → State σ → Prop :=
  Path (Move p)

/-- Who does something next. -/
inductive Choice where
  | produces
  /-- The job at an index. -/
  | advances (index : Nat)
  | reads
  | dismisses (cause : Failure)
  | leaves
  | cancels
  /-- Time, up to an instant. -/
  | passes (t : Instant)

/-- What somebody does next, unless he has to wait. -/
def move? (s : State σ) : Choice → Option (Deed × State σ)
  | .produces => (produce p s).map (doneByProduction p s, ·)
  | .advances index => (s.job? index).bind fun j => (step p s j).map (doneByJob s j, ·)
  | .reads =>
    if s.outlet.closed then none
    else s.outlet.next.map fun (answer, outlet) => (.reads answer, { s with outlet })
  | .dismisses f =>
    if s.outlet.closed then none
    else some (.dismisses f, { s with outlet := s.outlet.cancel f })
  | .leaves => if s.outlet.closed then none else some (.leaves, { s with outlet := s.outlet.close })
  | .cancels => some (.cancels, { s with canceled := true })
  | .passes t =>
    if s.scene.clock.now ≤ t then some (.passes, { s with scene := s.scene.later t }) else none

/-- A session in which some do something in turn. -/
def play : List Choice → State σ → Option (List Deed × State σ)
  | [], s => some ([], s)
  | choice :: later, s =>
    (move? p s choice).bind fun (e, s) => (play later s).map fun (h, s) => (e :: h, s)

variable {p} {s s' s₀ : State σ} {e : Deed} {h h' : List Deed}

theorem Move.of_move? {choice : Choice} (hmove : move? p s choice = some (e, s')) :
    Move p s e s' := by
  cases choice with
  | produces =>
    obtain ⟨s₁, hproduce, heq⟩ := Option.map_eq_some_iff.1 hmove
    cases heq
    exact .produces hproduce
  | advances index =>
    obtain ⟨j, hj, hstep⟩ := Option.bind_eq_some_iff.1 hmove
    obtain ⟨s₁, hstep, heq⟩ := Option.map_eq_some_iff.1 hstep
    cases heq
    have hindex : j.index = index := State.job?_index hj
    exact .advances (hindex ▸ hj) hstep
  | reads =>
    simp only [move?] at hmove
    split at hmove
    · cases hmove
    · next hreader =>
      obtain ⟨⟨answer, outlet⟩, hnext, heq⟩ := Option.map_eq_some_iff.1 hmove
      cases heq
      exact .reads (Bool.eq_false_iff.2 hreader) hnext
  | dismisses f =>
    simp only [move?] at hmove
    split at hmove
    · cases hmove
    · next hreader =>
      cases hmove
      exact .dismisses (Bool.eq_false_iff.2 hreader)
  | leaves =>
    simp only [move?] at hmove
    split at hmove
    · cases hmove
    · next hreader =>
      cases hmove
      exact .leaves (Bool.eq_false_iff.2 hreader)
  | cancels =>
    cases hmove
    exact .cancels
  | passes t =>
    simp only [move?] at hmove
    split at hmove
    · next hle =>
      cases hmove
      exact .passes hle
    · cases hmove

theorem Course.of_play : ∀ (choices : List Choice) {s s' : State σ} {h : List Deed},
    play p choices s = some (h, s') → Course p s h s'
  | [], s, s', h, hplay => by
    cases hplay
    exact .nil
  | choice :: later, s, s', h, hplay => by
    obtain ⟨⟨e, s₁⟩, hmove, hplay⟩ := Option.bind_eq_some_iff.1 hplay
    obtain ⟨⟨h', s₂⟩, hlater, heq⟩ := Option.map_eq_some_iff.1 hplay
    cases heq
    have hfirst : Course p s ([] ++ [e]) s₁ := Path.nil.snoc (.of_move? hmove)
    exact hfirst.append (Course.of_play later hlater)

end

/-- A session begins in the state in which the run does. -/
theorem eq_start_of_launch {p : Plan σ} {s : State σ} {scene : Scene σ} {canceled : Bool}
    (hlaunch : p.launch scene canceled = .ok s) : s = p.start scene canceled := by
  unfold Plan.launch at hlaunch
  split at hlaunch <;> cases hlaunch
  rfl

/-! ## Histories -/

section

variable (h h' : List Deed)

/-- The answers of the producer. -/
def asked : List (Answer Failure (Option Request)) :=
  h.filterMap fun
    | .asks _ answer => some answer
    | _ => none

/-- The requests that the producer gave. -/
def yielded : List Request :=
  h.filterMap fun
    | .asks _ (.ok (some request)) => some request
    | _ => none

/-- The indices of the requests that became jobs. -/
def accepted : List Nat :=
  h.filterMap fun
    | .accepts index => some index
    | _ => none

/-- The indices of the jobs that are done. -/
def finished : List Nat :=
  h.filterMap fun
    | .finishes index => some index
    | _ => none

/-- The indices of the jobs whose responses came to the outlet. -/
def delivered : List Nat :=
  h.filterMap fun
    | .delivers index => some index
    | _ => none

/-- The results that were read. -/
def taken : List Outcome :=
  h.filterMap fun
    | .reads (.ok (some outcome)) => some outcome
    | _ => none

@[simp] theorem asked_append : asked (h ++ h') = asked h ++ asked h' :=
  List.filterMap_append

@[simp] theorem yielded_append : yielded (h ++ h') = yielded h ++ yielded h' :=
  List.filterMap_append

@[simp] theorem accepted_append : accepted (h ++ h') = accepted h ++ accepted h' :=
  List.filterMap_append

@[simp] theorem finished_append : finished (h ++ h') = finished h ++ finished h' :=
  List.filterMap_append

@[simp] theorem delivered_append : delivered (h ++ h') = delivered h ++ delivered h' :=
  List.filterMap_append

@[simp] theorem taken_append : taken (h ++ h') = taken h ++ taken h' :=
  List.filterMap_append

end

/-! ## What a step changes -/

theorem exists_productionStep {p : Plan σ} {s s' : State σ} (hstep : produce p s = some s') :
    ∃ shown, ProductionStep p s shown s' :=
  ⟨_, .of_produce hstep⟩

/-- What a step of a job changes, beside the scene and the flags. -/
inductive JobEffect (s : State σ) (j : Job) : Deed → State σ → Prop where
  | works {s₁ : State σ} {work : Work} (hne : ∀ f, j.work ≠ .reports f) (hjobs : s₁.jobs = s.jobs)
      (hproduction : s₁.production = s.production) (houtlet : s₁.outlet = s.outlet)
      (hcanceled : s₁.canceled = s.canceled)
      (hfailed : s₁.failed → s.failed ∨ ∃ f, work = .reports f) :
      JobEffect s j .moves (s₁.setWork j.index work)
  | delivers {o : Outcome} (hne : ∀ f, j.work ≠ .reports f) (haccepts : s.outlet.refuses = false)
      (hroom : s.outlet.buffer.length < s.outlet.capacity) :
      JobEffect s j (.delivers j.index)
        ({ s with outlet := { s.outlet with buffer := s.outlet.buffer ++ [o] } }.setWork j.index
          .leaves)
  | reports {f : Failure} (scene : Scene σ) :
      JobEffect s j (.reports j.index f)
        ({ s with scene, outlet := s.outlet.cancel f }.setWork j.index .stops)
  | leaves (hne : ∀ f, j.work ≠ .reports f) : JobEffect s j (.finishes j.index) (s.dropJob j.index)

theorem JobEffect.of_step {p : Plan σ} {s s' : State σ} {j : Job} (hstep : step p s j = some s') :
    JobEffect s j (doneByJob s j) s' := by
  have hshown := JobStep.of_step hstep
  generalize shownByJob p s j = shown at hshown
  unfold doneByJob
  cases hshown with
  | begins hwork | resumes hwork | unhandled hwork | handles _ hwork | answers _ hwork
    | failsLater hwork | stops hwork =>
    rw [hwork]
    exact .works (by simp [hwork]) rfl rfl rfl rfl .inl
  | refused hwork hrefuses =>
    simp only [hwork, hrefuses, if_true]
    exact .works (by simp [hwork]) rfl rfl rfl rfl .inl
  | delivers hwork haccepts hroom =>
    simp only [hwork, haccepts, Bool.false_eq_true, if_false]
    exact .delivers (by simp [hwork]) haccepts hroom
  | failsFirst hwork =>
    rw [hwork]
    exact .works (by simp [hwork]) rfl rfl rfl rfl fun _ => .inr ⟨_, rfl⟩
  | reports scene hwork =>
    rw [hwork]
    exact .reports scene
  | leaves hwork =>
    rw [hwork]
    exact .leaves (by simp [hwork])

/-! ## Which jobs there are -/

/-- How far production has come, with so many requests given and so many jobs accepted. -/
def Stands (yielded accepted : Nat) : Production → Prop
  | .checks i | .asks i => i = accepted ∧ yielded = accepted
  | .offers i _ | .claims i _ | .queues i _ | .adds i _ => i = accepted ∧ yielded = accepted + 1
  | .drains | .over => yielded ≤ accepted + 1

/-- One request at most waits to be accepted. -/
theorem Stands.le {yielded accepted : Nat} {production : Production}
    (h : Stands yielded accepted production) : yielded ≤ accepted + 1 := by
  unfold Stands at h
  split at h <;> omega

/-- How many places production holds for a job to come. -/
def held : Production → Nat
  | .adds _ _ => 1
  | _ => 0

/-- Which jobs there are after a history. -/
structure Census (p : Plan σ) (h : List Deed) (s : State σ) : Prop where
  /-- Jobs are accepted in the order of their indices. -/
  accepted : accepted h = List.range (accepted h).length
  /-- The jobs are those that were accepted and have not finished. -/
  present : (s.jobs.map Job.index ++ finished h).Perm (Session.accepted h)
  stands : Stands (yielded h).length (Session.accepted h).length s.production
  places : s.jobs.length + held s.production ≤ p.batch.places

namespace Census

variable {p : Plan σ} {s s' s₀ : State σ} {e : Deed} {h : List Deed} {j : Job}

theorem start {scene : Scene σ} {canceled : Bool} (hlaunch : p.launch scene canceled = .ok s) :
    Census p [] s := by
  obtain rfl := eq_start_of_launch hlaunch
  exact ⟨rfl, .nil, ⟨rfl, rfl⟩, Nat.zero_le _⟩

/-- No two jobs have the same index, and none has the index of a job that is done. -/
theorem nodup (hc : Census p h s) : (s.jobs.map Job.index ++ finished h).Nodup := by
  rw [hc.present.nodup_iff, hc.accepted]
  exact List.nodup_range

theorem distinct (hc : Census p h s) : s.Distinct :=
  (List.nodup_append.1 hc.nodup).1

theorem length_accepted (hc : Census p h s) :
    (Session.accepted h).length = s.jobs.length + (finished h).length := by
  rw [← hc.present.length_eq, List.length_append, List.length_map]

/-- Nothing that happens to jobs, or to what production stands at. -/
theorem congr (hc : Census p h s) (hjobs : s'.jobs.map Job.index = s.jobs.map Job.index)
    (hproduction : s'.production = s.production) (hy : yielded [e] = [])
    (ha : Session.accepted [e] = []) (hf : finished [e] = []) : Census p (h ++ [e]) s' := by
  have hlength : s'.jobs.length = s.jobs.length := by
    simpa using congrArg List.length hjobs
  constructor
  case accepted => simpa [ha] using hc.accepted
  case present => simpa [ha, hf, hjobs] using hc.present
  case stands => simpa [ha, hy, hproduction] using hc.stands
  case places => simpa [hlength, hproduction] using hc.places

/-- What a job does. -/
theorem step (hc : Census p h s) (hj : s.job? j.index = some j) (heffect : JobEffect s j e s') :
    Census p (h ++ [e]) s' := by
  cases heffect with
  | works _ hjobs hproduction => exact hc.congr (by simp [hjobs]) hproduction rfl rfl rfl
  | delivers | reports => exact hc.congr (by simp) rfl rfl rfl rfl
  | leaves =>
    obtain ⟨before, after, hsplit, hdrop⟩ := State.jobs_dropJob hc.distinct hj
    have hlength := State.length_dropJob hc.distinct hj
    constructor
    case accepted => simpa [Session.accepted] using hc.accepted
    case present =>
      have hpresent := hc.present
      have ha : Session.accepted (h ++ [.finishes j.index]) = Session.accepted h := by
        simp [Session.accepted]
      have hf : finished (h ++ [.finishes j.index]) = finished h ++ [j.index] := by
        simp [finished]
      rw [hsplit] at hpresent
      rw [ha, hf, hdrop]
      refine List.Perm.trans ?_ hpresent
      simp only [List.map_append, List.map_cons, List.append_assoc, List.cons_append]
      refine List.Perm.append_left _ ?_
      rw [← List.append_assoc]
      exact List.perm_append_singleton _ _
    case stands =>
      change Stands _ _ s.production
      simpa [Session.accepted, yielded] using hc.stands
    case places =>
      have hplaces := hc.places
      change (s.dropJob j.index).jobs.length + held s.production ≤ _
      omega

/-- Production goes on, with the same jobs. -/
theorem setProduction (hc : Census p h s) (hjobs : s'.jobs = s.jobs)
    (ha : Session.accepted [e] = []) (hf : finished [e] = [])
    (hstands : Stands ((yielded h).length + (yielded [e]).length) (Session.accepted h).length
      s'.production)
    (hplaces : s.jobs.length + held s'.production ≤ p.batch.places) : Census p (h ++ [e]) s' where
  accepted := by simpa [ha] using hc.accepted
  present := by simpa [ha, hf, hjobs] using hc.present
  stands := by simpa [ha] using hstands
  places := by simpa [hjobs] using hplaces

/-- Production adds a job. -/
theorem add {i : Nat} {request : Request} (hc : Census p h s)
    (hproduction : s.production = .adds i request) :
    Census p (h ++ [.accepts i]) { s.addJob i request with production := .checks (i + 1) } := by
  have hstands := hc.stands
  have hplaces := hc.places
  rw [hproduction] at hstands hplaces
  obtain ⟨rfl, hyielded⟩ := hstands
  have ha : Session.accepted (h ++ [.accepts (Session.accepted h).length]) =
      Session.accepted h ++ [(Session.accepted h).length] := by simp [Session.accepted]
  have hy : yielded (h ++ [.accepts (Session.accepted h).length]) = yielded h := by simp [yielded]
  have hf : finished (h ++ [.accepts (Session.accepted h).length]) = finished h := by
    simp [finished]
  constructor
  case accepted =>
    rw [ha, List.length_append, List.length_singleton, List.range_succ, ← hc.accepted]
  case present =>
    rw [ha, hf]
    simp only [State.addJob, List.map_append, List.map_cons, List.map_nil, List.append_assoc]
    exact List.perm_middle.trans
      ((hc.present.cons _).trans (List.perm_append_singleton _ _).symm)
  case stands =>
    rw [ha, hy]
    exact ⟨by simp, by simp [hyielded]⟩
  case places =>
    simpa [State.addJob, held] using hplaces

/-- What production does. -/
theorem produce (hc : Census p h s) (hstep : Batch.produce p s = some s') :
    Census p (h ++ [doneByProduction p s]) s' := by
  obtain ⟨_, hshown⟩ := exists_productionStep hstep
  have hstands := hc.stands
  have hplaces : s.jobs.length ≤ p.batch.places := Nat.le_of_add_right_le hc.places
  unfold doneByProduction
  cases hshown with
  | checks hproduction =>
    rw [hproduction] at hstands ⊢
    exact hc.setProduction rfl rfl rfl hstands hplaces
  | gives hproduction =>
    rw [hproduction] at hstands ⊢
    exact hc.setProduction rfl rfl rfl (Nat.le_succ_of_le (Nat.le_of_eq hstands.2)) hplaces
  | asks scene hproduction hanswer =>
    rw [hproduction] at hstands ⊢
    simp only [hanswer]
    exact hc.setProduction rfl rfl rfl ⟨hstands.1, congrArg (· + 1) hstands.2⟩ hplaces
  | exhausts scene hproduction hanswer | fails scene hproduction hanswer
    | crashes scene hproduction hanswer =>
    rw [hproduction] at hstands ⊢
    simp only [hanswer]
    exact hc.setProduction rfl rfl rfl (Nat.le_succ_of_le (Nat.le_of_eq hstands.2)) hplaces
  | stops hproduction | quits hproduction =>
    rw [hproduction] at hstands ⊢
    exact hc.setProduction rfl rfl rfl (Nat.le_of_eq hstands.2) hplaces
  | offers hproduction | queues hproduction | wakes hproduction =>
    rw [hproduction] at hstands ⊢
    exact hc.setProduction rfl rfl rfl hstands hplaces
  | claims hproduction hplace =>
    rw [hproduction] at hstands ⊢
    exact hc.setProduction rfl rfl rfl hstands hplace
  | adds hproduction =>
    rw [hproduction]
    exact hc.add hproduction
  | drains hproduction | drainsCanceled hproduction =>
    rw [hproduction] at hstands ⊢
    exact hc.setProduction rfl rfl rfl hstands hplaces

theorem move (hc : Census p h s) (hmove : Move p s e s') : Census p (h ++ [e]) s' := by
  cases hmove with
  | produces hstep => exact hc.produce hstep
  | advances hj hstep => exact hc.step hj (.of_step hstep)
  | reads | dismisses | leaves | cancels | passes => exact hc.congr rfl rfl rfl rfl rfl

theorem of_course {scene : Scene σ} {canceled : Bool}
    (hlaunch : p.launch scene canceled = .ok s₀) (hcourse : Course p s₀ h s) : Census p h s :=
  hcourse.invariant (Census.start hlaunch) fun _ _ _ _ => move

end Census

end Courier.Batch.Session
