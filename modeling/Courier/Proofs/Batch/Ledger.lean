import Courier.Proofs.Batch.Jobs
import Courier.Proofs.Batch.Steps
import Courier.Proofs.Batch.Stories

/-!
# What a batch knows of its jobs

`Ledger` ties the state of a batch to the history of a run. It says, of the production, for which
requests it has asked (`Asking`) ; of each job, its story ; of the outlet, that it is canceled for
a real cause alone ; and that nobody gives up before somebody has a cause to report. Every step
keeps it, and so it holds all through a run (`Ledger.of_run`). A producer that crashes is written
down as one that has no more requests, for that is what the batch sees (`Ledger.of_seen`).
-/

namespace Courier.Batch

variable {σ : Type} {p : Plan σ} {h : List Happening} {e : Happening} {i n : Nat}
  {s s' : State σ} {taken : List Outcome} {j : Job} {work : Work}

/-- Which answers the producer has given : requests for all indices below `n`, and perhaps a last
answer at `n`. -/
def Asked (h : List Happening) (n : Nat) (last : Option (Answer Failure (Option Request))) : Prop :=
  ∀ i answer, .asked i answer ∈ h →
    (i < n ∧ ∃ request, answer = .ok (some request)) ∨ (i = n ∧ some answer = last)

/-- How far production has come, with `n` jobs added. It ends when the producer has no more
requests, or when there is a failure. -/
def Asking (h : List Happening) (s : State σ) (n : Nat) : Prop :=
  match s.production with
  | .checks i | .asks i => i = n ∧ Asked h n none
  | .offers i _ | .claims i _ | .queues i _ | .adds i _ =>
    i = n ∧ ∃ request, Asked h n (some (.ok (some request)))
  | .drains | .over => ∃ last, Asked h n last ∧
      ((last = some (.ok none) ∧ Exhausted h n) ∨ s.outlet.canceled ∨ s.failed)

/-- How many writers production has at the outlet. -/
def Production.writers : Production → Nat
  | .over => 0
  | _ => 1

/-- What holds of the state of a batch after a history, with `n` jobs added and some results
read. -/
structure Ledger (p : Plan σ) (h : List Happening) (s : State σ) (taken : List Outcome) (n : Nat) :
    Prop where
  asking : Asking h s n
  distinct : s.Distinct
  stories : Stories p h s.workAt s.outlet.canceled s.failed (taken ++ s.outlet.buffer) n
  writers : s.outlet.writers = s.jobs.length + s.production.writers
  capacity : 0 < s.outlet.capacity
  attended : s.outlet.closed = false
  uncanceled : s.canceled = false
  stopped : s.stopped → s.failed
  reported : s.failed → s.outlet.canceled ∨ ∃ i f, s.workAt i = some (.reports f)
  cause : s.outlet.canceled → ∃ f, s.outlet.cause = some f ∧ Cause p h f

theorem Asked.append {last : Option (Answer Failure (Option Request))} (ha : Asked h n last)
    (he : ∀ i answer, e ≠ .asked i answer) : Asked (h ++ [e]) n last := by
  intro i answer hmem
  rcases List.mem_append.1 hmem with hmem | hmem
  · exact ha i answer hmem
  · exact absurd (List.mem_singleton.1 hmem).symm (he i answer)

/-- The producer answers at the index of the next job. -/
theorem Asked.concat (ha : Asked h n none) (answer : Answer Failure (Option Request)) :
    Asked (h ++ [.asked n answer]) n (some answer) := by
  intro i answer' hmem
  rcases List.mem_append.1 hmem with hmem | hmem
  · exact (ha i answer' hmem).imp_right fun hlast => by simp at hlast
  · cases List.mem_singleton.1 hmem
    exact .inr ⟨rfl, rfl⟩

/-- A request that was asked for becomes a job. -/
theorem Asked.succ {request : Request} (ha : Asked h n (some (.ok (some request)))) :
    Asked h (n + 1) none := by
  intro i answer hmem
  rcases ha i answer hmem with ⟨hi, hanswer⟩ | ⟨rfl, hanswer⟩
  · exact .inl ⟨Nat.lt_succ_of_lt hi, hanswer⟩
  · exact .inl ⟨Nat.lt_succ_self _, request, Option.some.inj hanswer⟩

theorem Asking.exists_asked (ha : Asking h s n) : ∃ last, Asked h n last := by
  unfold Asking at ha
  match hproduction : s.production with
  | .checks _ | .asks _ =>
    rw [hproduction] at ha
    exact ⟨_, ha.2⟩
  | .offers .. | .claims .. | .queues .. | .adds .. =>
    rw [hproduction] at ha
    exact ⟨_, ha.2.choose_spec⟩
  | .drains | .over =>
    rw [hproduction] at ha
    exact ⟨_, ha.choose_spec.1⟩

/-- Production stays where it is while somebody else moves. -/
theorem Asking.append (ha : Asking h s n) (he : ∀ i answer, e ≠ .asked i answer)
    (hproduction : s'.production = s.production)
    (hcanceled : s.outlet.canceled → s'.outlet.canceled) (hfailed : s.failed → s'.failed) :
    Asking (h ++ [e]) s' n := by
  have hclosing : (∃ last, Asked h n last ∧
      ((last = some (.ok none) ∧ Exhausted h n) ∨ s.outlet.canceled ∨ s.failed)) →
      ∃ last, Asked (h ++ [e]) n last ∧
        ((last = some (.ok none) ∧ Exhausted (h ++ [e]) n) ∨ s'.outlet.canceled ∨ s'.failed) := by
    rintro ⟨last, hasked, hreason⟩
    refine ⟨last, hasked.append he, hreason.imp ?_ (Or.imp hcanceled hfailed)⟩
    exact And.imp_right (List.mem_append_left _)
  unfold Asking at ha ⊢
  rw [hproduction]
  match hs : s.production with
  | .checks _ | .asks _ =>
    rw [hs] at ha
    exact ⟨ha.1, ha.2.append he⟩
  | .offers .. | .claims .. | .queues .. | .adds .. =>
    rw [hs] at ha
    exact ⟨ha.1, ha.2.imp fun _ hasked => hasked.append he⟩
  | .drains | .over =>
    rw [hs] at ha
    exact hclosing ha

theorem Happening.Concerns.ne_asked (he : e.Concerns i) (k : Nat)
    (answer : Answer Failure (Option Request)) : e ≠ .asked k answer := by
  rintro rfl
  exact he

/-! ## Steps of a job -/

/-- A state that differs in what a job may change beside its own work : the scene, the flags, and
what is in the outlet. -/
structure State.Alike (s s' : State σ) : Prop where
  jobs : s'.jobs = s.jobs
  production : s'.production = s.production
  canceled : s'.canceled = s.canceled
  capacity : s'.outlet.capacity = s.outlet.capacity
  closed : s'.outlet.closed = s.outlet.closed
  writers : s'.outlet.writers = s.outlet.writers

/-! ## What a batch sees of its producer -/

/-- What a batch sees of a happening : a producer that crashes has no more requests. -/
def Happening.seen : Happening → Happening
  | .asked index (.error (.crash _)) => .asked index (.ok none)
  | e => e

theorem seen_shownByCall (i : Nat) (progress : Answer Failure Call.Progress) :
    (shownByCall i progress).seen = shownByCall i progress := by
  unfold shownByCall
  split <;> rfl

theorem seen_shownByJob (p : Plan σ) (s : State σ) (j : Job) :
    (shownByJob p s j).seen = shownByJob p s j := by
  unfold shownByJob
  split
  · exact seen_shownByCall _ _
  · exact seen_shownByCall _ _
  · split <;> rfl
  · rfl

/-- All is seen of a producer that does not crash. -/
theorem seen_shownByProduction
    (hproducer : ∀ i world crash, (p.producer i world).1 ≠ .error (.crash crash)) (s : State σ) :
    (shownByProduction p s).seen = shownByProduction p s := by
  unfold shownByProduction
  split
  · next i _ =>
    match hanswer : (p.producer i s.scene.world).1 with
    | .ok _ | .error (.error _) => rfl
    | .error (.crash crash) => exact absurd hanswer (hproducer i _ crash)
  · rfl

theorem Run.map_seen {s₀ : State σ} {c : Collection σ}
    (hproducer : ∀ i world crash, (p.producer i world).1 ≠ .error (.crash crash))
    (hrun : Run p s₀ h c) : h.map Happening.seen = h := by
  induction hrun with
  | start => rfl
  | turn _ _ hturn ih =>
    rw [List.map_append, ih, List.map_singleton]
    congr 2
    cases hturn with
    | produces => exact seen_shownByProduction hproducer _
    | advances => exact seen_shownByJob _ _ _
    | reads | passes => rfl

namespace Ledger

/-- The cause of the outlet is still one later. -/
theorem cause_append (hl : Ledger p h s taken n) (e : Happening) (hc : s.outlet.canceled) :
    ∃ f, s.outlet.cause = some f ∧ Cause p (h ++ [e]) f :=
  (hl.cause hc).imp fun _ hf => ⟨hf.1, hf.2.append _⟩

/-- A real cause to cancel the outlet becomes its cause, unless it has another one. -/
theorem cause_cancel {f : Failure} (hl : Ledger p h s taken n)
    (hf : ¬s.outlet.canceled → Cause p (h ++ [e]) f) :
    ∃ g, (s.outlet.cancel f).cause = some g ∧ Cause p (h ++ [e]) g := by
  unfold Outlet.cancel
  by_cases hc : s.outlet.canceled
  · rw [if_pos hc]
    exact hl.cause_append e hc
  · rw [if_neg hc]
    exact ⟨f, rfl, hf hc⟩

/-- While the reader is there, an outlet refuses results only if it is canceled. -/
theorem canceled_of_refuses (hl : Ledger p h s taken n) (hrefuses : s.outlet.refuses) :
    s.outlet.canceled := by
  simpa [Outlet.refuses, hl.attended] using hrefuses

theorem unhandled_moved (hl : Ledger p h s taken n) (i : Nat) (hnone : p.handler.isNone) :
    handledOf (h ++ [.moved]) i = [] :=
  (handledOf_concat_of_silent silent_moved i).trans (hl.stories.unhandled hnone i)

theorem lt_of_job? (hl : Ledger p h s taken n) (hj : s.job? i = some j) : i < n :=
  hl.stories.lt_of_work (State.workAt_of_job? hj)

theorem story (hl : Ledger p h s taken n) (hj : s.job? i = some j) (hwork : j.work = work) :
    Story p h s.outlet.canceled s.failed (responsesOf (taken ++ s.outlet.buffer) i) i
      (some work) := by
  rw [← hwork, ← State.workAt_of_job? hj]
  exact hl.stories.told i (hl.lt_of_job? hj)

/-- A job does something, and there is other work for it. -/
theorem setWork (hl : Ledger p h s taken n) (hj : s.job? i = some j) (hs : s.Alike s')
    (he : e.Concerns i)
    (hbuffer : ∀ k, k ≠ i →
      responsesOf (taken ++ s'.outlet.buffer) k = responsesOf (taken ++ s.outlet.buffer) k)
    (hcanceled : s.outlet.canceled → s'.outlet.canceled)
    (hcause : s'.outlet.canceled → ∃ f, s'.outlet.cause = some f ∧ Cause p (h ++ [e]) f)
    (hfailed : s.failed → s'.failed) (hstopped : s'.stopped → s'.failed)
    (hreported : s'.failed →
      s'.outlet.canceled ∨ (∃ f, work = .reports f) ∨ (s.failed ∧ ∀ f, j.work ≠ .reports f))
    (hstory : Story p (h ++ [e]) s'.outlet.canceled s'.failed
      (responsesOf (taken ++ s'.outlet.buffer) i) i (some work))
    (hunhandled : p.handler.isNone → handledOf (h ++ [e]) i = []) :
    Ledger p (h ++ [e]) (s'.setWork i work) taken n := by
  have hj' : s'.job? i = some j := (State.job?_congr hs.jobs i).trans hj
  have hwork (k : Nat) (hk : k ≠ i) : (s'.setWork i work).workAt k = s.workAt k := by
    rw [State.workAt_setWork hj', if_neg hk, State.workAt_congr hs.jobs]
  have hwork' : (s'.setWork i work).workAt i = some work := by
    rw [State.workAt_setWork hj', if_pos rfl]
  constructor
  case asking => exact hl.asking.append he.ne_asked hs.production hcanceled hfailed
  case distinct => exact (State.Distinct.congr hs.jobs hl.distinct).setWork
  case stories =>
    refine hl.stories.concerning (hl.lt_of_job? hj) he hcanceled hfailed hwork hbuffer ?_ hunhandled
    rw [hwork']
    exact hstory
  case writers =>
    rw [State.length_setWork, hs.jobs]
    exact hs.writers.trans (hl.writers.trans (by rw [← hs.production]; rfl))
  case capacity => exact hs.capacity ▸ hl.capacity
  case attended => exact hs.closed.trans hl.attended
  case uncanceled => exact hs.canceled.trans hl.uncanceled
  case stopped => exact hstopped
  case reported =>
    intro hfail
    rcases hreported hfail with hcanceled | ⟨f, rfl⟩ | ⟨hfail, hne⟩
    · exact .inl hcanceled
    · exact .inr ⟨i, f, hwork'⟩
    · rcases hl.reported hfail with hcancel | ⟨k, f, hk⟩
      · exact .inl (hcanceled hcancel)
      · refine .inr ⟨k, f, ?_⟩
        rw [hwork k, hk]
        rintro rfl
        rw [State.workAt_of_job? hj] at hk
        exact hne f (Option.some.inj hk)
  case cause => exact hcause

/-- A job does something that shows in its own work alone. -/
theorem setWork_alone (hl : Ledger p h s taken n) (hj : s.job? i = some j) (scene : Scene σ)
    (calls : Nat) (he : e.Concerns i) (hne : ∀ f, j.work ≠ .reports f)
    (hstory : Story p (h ++ [e]) s.outlet.canceled s.failed
      (responsesOf (taken ++ s.outlet.buffer) i) i (some work))
    (hunhandled : p.handler.isNone → handledOf (h ++ [e]) i = []) :
    Ledger p (h ++ [e]) ({ s with scene, calls }.setWork i work) taken n :=
  hl.setWork hj ⟨rfl, rfl, rfl, rfl, rfl, rfl⟩ he (fun _ _ => rfl) id
    (hl.cause_append _) id hl.stopped
    (fun hf => .inr (.inr ⟨hf, hne⟩)) hstory hunhandled

/-- A job whose work changes while nothing shows. -/
theorem setWork_moved (hl : Ledger p h s taken n) (hj : s.job? i = some j) (scene : Scene σ)
    (calls : Nat) (hne : ∀ f, j.work ≠ .reports f)
    (hstory : Story p (h ++ [.moved]) s.outlet.canceled s.failed
      (responsesOf (taken ++ s.outlet.buffer) i) i (some work)) :
    Ledger p (h ++ [.moved]) ({ s with scene, calls }.setWork i work) taken n :=
  hl.setWork_alone hj scene calls trivial hne hstory (hl.unhandled_moved i)

/-- A job makes progress in its call, or comes to the end of it. -/
theorem ofProgress (hl : Ledger p h s taken n) (hj : s.job? i = some j) (scene : Scene σ)
    (calls : Nat) (hne : ∀ f, j.work ≠ .reports f)
    (hblank : callsOf h i = [] ∧ handledOf h i = [] ∧
      responsesOf (taken ++ s.outlet.buffer) i = [])
    (progress : Answer Failure Call.Progress) :
    Ledger p (h ++ [shownByCall i progress])
      ({ s with scene, calls }.setWork i (.ofProgress progress)) taken n := by
  obtain ⟨hcalls, hhandled, hdelivered⟩ := hblank
  have hcalled (answer : Answer Failure Response) :
      callsOf (h ++ [.called i answer]) i = [answer] := by
    rw [callsOf_concat_called, hcalls, List.nil_append]
  have hunhandled (answer : Answer Failure Response) :
      handledOf (h ++ [.called i answer]) i = [] := by
    rw [handledOf_concat_called, hhandled]
  have hmem (answer : Answer Failure Response) : .called i answer ∈ h ++ [.called i answer] := by
    simp
  match progress with
  | .ok (.waits call wake wait) =>
    exact hl.setWork_moved hj scene calls hne
      ⟨(callsOf_concat_of_silent silent_moved i).trans hcalls,
        (handledOf_concat_of_silent silent_moved i).trans hhandled, hdelivered⟩
  | .ok (.answered response) =>
    exact hl.setWork_alone hj scene calls rfl hne
      ⟨.answered (hcalled _) (hunhandled _), hdelivered⟩ fun _ => hunhandled _
  | .error (.error f) =>
    exact hl.setWork_alone hj scene calls rfl hne ⟨hcalled _, hunhandled _, hdelivered⟩
      fun _ => hunhandled _
  | .error (.crash crash) =>
    exact hl.setWork_alone hj scene calls rfl hne ⟨.inr (.crashed (hmem _)), hdelivered⟩
      fun _ => hunhandled _

/-- A job whose call failed without a handler to ask. -/
theorem ofUnhandled {f : Failure} (hl : Ledger p h s taken n) (hj : s.job? i = some j)
    (hwork : j.work = .handles f) (hnone : p.handler = none) :
    Ledger p (h ++ [.moved]) (s.setWork i (.fails (.multiplex i f))) taken n := by
  obtain ⟨hcalls, -, hdelivered⟩ := hl.story hj hwork
  have hcall : .called i (.error (.error f)) ∈ h :=
    mem_callsOf.1 (hcalls ▸ List.mem_singleton_self _)
  have hfails : Fails p h i (.multiplex i f) := .unhandled (by simp [hnone]) hcall
  exact hl.setWork_moved hj s.scene s.calls (by simp [hwork])
    ⟨.inr (hfails.append _), hdelivered⟩

/-- A job about which the handler was asked. -/
theorem ofHandled {f : Failure} (hl : Ledger p h s taken n) (hj : s.job? i = some j)
    (hwork : j.work = .handles f) (hsome : p.handler.isSome) (scene : Scene σ)
    (answer : Answer Failure (Option Response)) :
    Ledger p (h ++ [.handled i f answer])
      ({ s with scene }.setWork i (.ofHandled i answer)) taken n := by
  obtain ⟨hcalls, hhandled, hdelivered⟩ := hl.story hj hwork
  have hne (g : Failure) : j.work ≠ .reports g := by simp [hwork]
  have hnone : ¬p.handler.isNone := by simp [← Option.not_isSome, hsome]
  have hcalls' : callsOf (h ++ [.handled i f answer]) i = [.error (.error f)] := by
    rw [callsOf_concat_handled, hcalls]
  have hhandled' : handledOf (h ++ [.handled i f answer]) i = [(f, answer)] := by
    rw [handledOf_concat_handled, hhandled, List.nil_append]
  have hcall : .called i (.error (.error f)) ∈ h ++ [.handled i f answer] :=
    mem_callsOf.1 (hcalls' ▸ List.mem_singleton_self _)
  have hanswer : .handled i f answer ∈ h ++ [.handled i f answer] := by simp
  match answer with
  | .ok (some response) =>
    exact hl.setWork_alone hj scene s.calls rfl hne ⟨.recovered hcalls' hhandled', hdelivered⟩
      (absurd · hnone)
  | .ok none =>
    exact hl.setWork_alone hj scene s.calls rfl hne
      (.inl ⟨none, .recovered hcalls' hhandled', hdelivered⟩) (absurd · hnone)
  | .error (.error g) =>
    exact hl.setWork_alone hj scene s.calls rfl hne ⟨.inr (.handler hcall hanswer), hdelivered⟩
      (absurd · hnone)
  | .error (.crash crash) =>
    exact hl.setWork_alone hj scene s.calls rfl hne
      ⟨.inr (.handlerCrashed hcall hanswer), hdelivered⟩ (absurd · hnone)

/-- A response that is handed to the outlet. -/
theorem ofDelivered {response : Response} (hl : Ledger p h s taken n) (hj : s.job? i = some j)
    (hwork : j.work = .delivers response) :
    Ledger p (h ++ [.moved])
      ({ s with outlet := { s.outlet with
        buffer := s.outlet.buffer ++ [Outcome.mk i response] } }.setWork i .leaves) taken n := by
  obtain ⟨hsettles, hdelivered⟩ := hl.story hj hwork
  have hbuffer (k : Nat) : responsesOf (taken ++ (s.outlet.buffer ++ [Outcome.mk i response])) k =
      responsesOf (taken ++ s.outlet.buffer) k ++ if i = k then [response] else [] := by
    rw [← List.append_assoc, responsesOf_append]
    by_cases hk : i = k <;> simp [responsesOf, hk]
  refine hl.setWork hj ⟨rfl, rfl, rfl, rfl, rfl, rfl⟩ trivial (fun k hk => ?_) id
    (hl.cause_append _) id hl.stopped (fun hf => .inr (.inr ⟨hf, by simp [hwork]⟩))
    (.inl ⟨some response, hsettles.silent silent_moved, ?_⟩) (hl.unhandled_moved i)
  · rw [hbuffer, if_neg (Ne.symm hk), List.append_nil]
  · rw [hbuffer, hdelivered, if_pos rfl]
    rfl

/-- The first failure of a job. -/
theorem ofFailed {f : Failure} (hl : Ledger p h s taken n) (hj : s.job? i = some j)
    (hwork : j.work = .fails f) :
    Ledger p (h ++ [.moved]) ({ s with failed := true }.setWork i (.reports f)) taken n := by
  obtain ⟨hcause, hdelivered⟩ := hl.story hj hwork
  exact hl.setWork hj ⟨rfl, rfl, rfl, rfl, rfl, rfl⟩ trivial (fun _ _ => rfl) id
    (hl.cause_append _) (fun _ => rfl) (fun _ => rfl) (fun _ => .inr (.inl ⟨f, rfl⟩))
    ⟨hcause.imp_right (·.append _), rfl, hdelivered⟩ (hl.unhandled_moved i)

/-- A failure that is reported becomes the cause of the outlet, unless it has another one. -/
theorem ofReported {f : Failure} (hl : Ledger p h s taken n) (hj : s.job? i = some j)
    (hwork : j.work = .reports f) (scene : Scene σ) :
    Ledger p (h ++ [.moved]) ({ s with scene, outlet := s.outlet.cancel f }.setWork i .stops)
      taken n := by
  obtain ⟨hcause, hfailed, hdelivered⟩ := hl.story hj hwork
  have halike : s.Alike { s with scene, outlet := s.outlet.cancel f } :=
    ⟨rfl, rfl, rfl, s.outlet.capacity_cancel f, s.outlet.closed_cancel f, s.outlet.writers_cancel f⟩
  refine hl.setWork hj halike trivial (fun k _ => ?_) (fun _ => s.outlet.canceled_cancel f)
    (fun _ => hl.cause_cancel fun hc => .job ((hcause.resolve_left hc).append _)) id hl.stopped
    (fun _ => .inl (s.outlet.canceled_cancel f)) ⟨hfailed, ?_⟩ (hl.unhandled_moved i)
  · rw [s.outlet.buffer_cancel]
  · rw [s.outlet.buffer_cancel]
    exact hdelivered

/-- A job that has given up stops the batch. -/
theorem ofStopped (hl : Ledger p h s taken n) (hj : s.job? i = some j) (hwork : j.work = .stops) :
    Ledger p (h ++ [.moved]) ({ s with stopped := true }.setWork i .leaves) taken n := by
  obtain ⟨hfailed, hdelivered⟩ := hl.story hj hwork
  exact hl.setWork hj ⟨rfl, rfl, rfl, rfl, rfl, rfl⟩ trivial (fun _ _ => rfl) id
    (hl.cause_append _) id (fun _ => hfailed) (fun hf => .inr (.inr ⟨hf, by simp [hwork]⟩))
    (.inr ⟨hfailed, hdelivered⟩) (hl.unhandled_moved i)

/-- A job that leaves. -/
theorem ofLeft (hl : Ledger p h s taken n) (hj : s.job? i = some j) (hwork : j.work = .leaves) :
    Ledger p (h ++ [.moved]) (s.dropJob i) taken n := by
  have hat : (s.dropJob i).workAt i = none := by rw [State.workAt_dropJob, if_pos rfl]
  have hwork' (k : Nat) (hk : k ≠ i) : (s.dropJob i).workAt k = s.workAt k := by
    rw [State.workAt_dropJob, if_neg hk]
  have hstory : Story p h s.outlet.canceled s.failed
      (responsesOf (taken ++ s.outlet.buffer) i) i none := hl.story hj hwork
  constructor
  case asking => exact hl.asking.append (by simp) rfl id id
  case distinct => exact hl.distinct.dropJob
  case stories =>
    refine hl.stories.concerning (hl.lt_of_job? hj) trivial id id hwork' (fun _ _ => rfl) ?_
      (hl.unhandled_moved i)
    rw [hat]
    exact hstory.silent silent_moved id id
  case writers =>
    have hlength := State.length_dropJob hl.distinct hj
    have hwriters := hl.writers
    change s.outlet.writers - 1 = (s.dropJob i).jobs.length + s.production.writers
    omega
  case capacity => exact hl.capacity
  case attended => exact hl.attended
  case uncanceled => exact hl.uncanceled
  case stopped => exact hl.stopped
  case reported =>
    intro hf
    refine (hl.reported hf).imp_right ?_
    rintro ⟨k, f, hk⟩
    refine ⟨k, f, (hwork' k ?_).trans hk⟩
    rintro rfl
    rw [State.workAt_of_job? hj, hwork] at hk
    cases hk
  case cause => exact hl.cause_append _

/-- Every step of a job keeps the ledger. -/
theorem step (hl : Ledger p h s taken n) (hj : s.job? j.index = some j)
    (hstep : JobStep p s j e s') : Ledger p (h ++ [e]) s' taken n := by
  cases hstep with
  | begins hwork => exact hl.ofProgress hj _ _ (by simp [hwork]) (hl.story hj hwork) _
  | resumes hwork => exact hl.ofProgress hj _ s.calls (by simp [hwork]) (hl.story hj hwork) _
  | unhandled hwork hhandler => exact hl.ofUnhandled hj hwork hhandler
  | handles scene hwork hhandler => exact hl.ofHandled hj hwork (by simp [hhandler]) scene _
  | answers scene hwork =>
    obtain ⟨hsettles, hdelivered⟩ := hl.story hj hwork
    exact hl.setWork_moved hj scene s.calls (by simp [hwork])
      ⟨hsettles.silent silent_moved, hdelivered⟩
  | refused hwork hrefuses =>
    have hcanceled := hl.canceled_of_refuses hrefuses
    exact hl.setWork_moved hj s.scene s.calls (by simp [hwork])
      ⟨.inl hcanceled, (hl.story hj hwork).2⟩
  | delivers hwork => exact hl.ofDelivered hj hwork
  | failsFirst hwork => exact hl.ofFailed hj hwork
  | failsLater hwork hfailed =>
    exact hl.setWork_moved hj s.scene s.calls (by simp [hwork]) ⟨hfailed, (hl.story hj hwork).2⟩
  | reports scene hwork => exact hl.ofReported hj hwork scene
  | stops hwork => exact hl.ofStopped hj hwork
  | leaves hwork => exact hl.ofLeft hj hwork

/-! ## Steps of production, of the reader and of time -/

/-- Production or the reader moves on, or time does, without a change to the jobs. -/
theorem frame {taken' : List Outcome} (hl : Ledger p h s taken n) (he : e.Silent)
    (hjobs : s'.jobs = s.jobs)
    (hflags : s'.canceled = s.canceled ∧ s'.failed = s.failed ∧ s'.stopped = s.stopped)
    (houtlet : taken' ++ s'.outlet.buffer = taken ++ s.outlet.buffer ∧
      s'.outlet.capacity = s.outlet.capacity ∧ s'.outlet.closed = s.outlet.closed)
    (hwriters : s'.outlet.writers = s.jobs.length + s'.production.writers)
    (hcanceled : s.outlet.canceled → s'.outlet.canceled)
    (hcause : s'.outlet.canceled → ∃ f, s'.outlet.cause = some f ∧ Cause p (h ++ [e]) f)
    (hasking : Asking (h ++ [e]) s' n) : Ledger p (h ++ [e]) s' taken' n := by
  have hwork := State.workAt_congr hjobs
  obtain ⟨hcancel, hfailed, hstopped⟩ := hflags
  obtain ⟨hbuffer, hcapacity, hclosed⟩ := houtlet
  constructor
  case asking => exact hasking
  case distinct => exact State.Distinct.congr hjobs hl.distinct
  case stories =>
    rw [hwork, hbuffer, hfailed]
    exact hl.stories.silent he hcanceled id
  case writers => rw [hwriters, hjobs]
  case capacity => exact hcapacity ▸ hl.capacity
  case attended => exact hclosed.trans hl.attended
  case uncanceled => exact hcancel.trans hl.uncanceled
  case stopped =>
    rw [hfailed, hstopped]
    exact hl.stopped
  case reported =>
    rw [hfailed, hwork]
    exact fun hf => (hl.reported hf).imp_left hcanceled
  case cause => exact hcause

/-- Production goes on to something else, and time may have passed. -/
theorem setProduction {production : Production} (hl : Ledger p h s taken n) (he : e.Silent)
    (scene : Scene σ) (hwriters : production.writers = s.production.writers)
    (hasking : Asking (h ++ [e]) { s with scene, production } n) :
    Ledger p (h ++ [e]) { s with scene, production } taken n :=
  hl.frame he rfl ⟨rfl, rfl, rfl⟩ ⟨rfl, rfl, rfl⟩ (hwriters ▸ hl.writers) id (hl.cause_append e)
    hasking

/-- Something goes on that shows neither in jobs nor in production. -/
theorem setScene (hl : Ledger p h s taken n) (he : e.Silent) (hne : ∀ i answer, e ≠ .asked i answer)
    (scene : Scene σ) : Ledger p (h ++ [e]) { s with scene } taken n :=
  hl.frame he rfl ⟨rfl, rfl, rfl⟩ ⟨rfl, rfl, rfl⟩ hl.writers id (hl.cause_append e)
    (hl.asking.append hne rfl id id)

/-- No job has the index of the one that is added. -/
theorem job?_of_adds {request : Request} (hl : Ledger p h s taken n)
    (hproduction : s.production = .adds i request) : s.job? i = none := by
  have hasking := hl.asking
  unfold Asking at hasking
  rw [hproduction] at hasking
  have hblank := (hl.stories.blank i (Nat.le_of_eq hasking.1.symm)).1
  simpa [State.workAt] using hblank

theorem addJob {request : Request} (hl : Ledger p h s taken n)
    (hproduction : s.production = .adds i request) :
    Ledger p (h ++ [.moved]) { s.addJob i request with production := .checks (i + 1) } taken
      (n + 1) := by
  have hnone := hl.job?_of_adds hproduction
  have hasking := hl.asking
  unfold Asking at hasking
  rw [hproduction] at hasking
  obtain ⟨rfl, request', hasked⟩ := hasking
  have hwork (k : Nat) : State.workAt { s.addJob i request with production := .checks (i + 1) } k =
      if k = i then some .begins else s.workAt k := State.workAt_addJob hnone
  constructor
  case asking => exact ⟨rfl, hasked.succ.append (by simp)⟩
  case distinct => exact hl.distinct.addJob hnone
  case stories => exact (hl.stories.silent silent_moved id id).add hwork
  case writers =>
    have hwriters := hl.writers
    rw [hproduction] at hwriters
    simp only [State.addJob, Outlet.addWriter, List.length_append, List.length_singleton,
      Production.writers] at hwriters ⊢
    omega
  case capacity => exact hl.capacity
  case attended => exact hl.attended
  case uncanceled => exact hl.uncanceled
  case stopped => exact hl.stopped
  case reported =>
    intro hf
    refine (hl.reported hf).imp_right ?_
    rintro ⟨k, f, hk⟩
    refine ⟨k, f, ?_⟩
    rw [hwork, if_neg, hk]
    rintro rfl
    simp [State.workAt, hnone] at hk
  case cause => exact hl.cause_append _

/-- Every step of production keeps the ledger, with one more job perhaps. -/
theorem produce (hl : Ledger p h s taken n) (hstep : ProductionStep p s e s') :
    ∃ n', Ledger p (h ++ [e.seen]) s' taken n' := by
  have hasking := hl.asking
  unfold Asking at hasking
  cases hstep with
  | checks hproduction =>
    rw [hproduction] at hasking
    exact ⟨n, hl.setProduction silent_moved s.scene (by rw [hproduction]; rfl)
      ⟨hasking.1, hasking.2.append (by simp)⟩⟩
  | gives hproduction hends =>
    rw [hproduction] at hasking
    have hcanceled := hl.canceled_of_refuses (hends.resolve_left (by simp [hl.uncanceled]))
    exact ⟨n, hl.setProduction silent_moved s.scene (by rw [hproduction]; rfl)
      ⟨none, hasking.2.append (by simp), .inr (.inl hcanceled)⟩⟩
  | asks scene hproduction =>
    rw [hproduction] at hasking
    obtain ⟨rfl, hasked⟩ := hasking
    exact ⟨_, hl.setProduction (silent_asked _ _) scene (by rw [hproduction]; rfl)
      ⟨rfl, _, hasked.concat _⟩⟩
  | exhausts scene hproduction =>
    rw [hproduction] at hasking
    obtain ⟨rfl, hasked⟩ := hasking
    exact ⟨_, hl.setProduction (silent_asked _ _) scene (by rw [hproduction]; rfl)
      ⟨_, hasked.concat _, .inl ⟨rfl, by simp [Exhausted]⟩⟩⟩
  | fails scene hproduction =>
    rw [hproduction] at hasking
    obtain ⟨rfl, hasked⟩ := hasking
    have hwriters := hl.writers
    rw [hproduction] at hwriters
    refine ⟨_, hl.frame (silent_asked _ _) rfl ⟨rfl, rfl, rfl⟩ (by simp) ?_ (fun _ => by simp)
      (fun _ => hl.cause_cancel fun _ => .production (by simp [Happening.seen]))
      ⟨_, hasked.concat _, .inr (.inl (by simp))⟩⟩
    rw [s.outlet.writers_cancel]
    exact hwriters
  | crashes scene hproduction =>
    rw [hproduction] at hasking
    obtain ⟨rfl, hasked⟩ := hasking
    have hwriters := hl.writers
    rw [hproduction] at hwriters
    refine ⟨_, hl.frame (silent_asked _ _) rfl ⟨rfl, rfl, rfl⟩ ⟨rfl, rfl, rfl⟩ ?_ id
      (hl.cause_append _)
      ⟨_, hasked.concat _, .inl ⟨rfl, by simp [Exhausted, Happening.seen]⟩⟩⟩
    simp only [State.endProduction, Outlet.dropWriter, Production.writers] at hwriters ⊢
    omega
  | stops hproduction hstopped | quits hproduction hstopped =>
    rw [hproduction] at hasking
    obtain ⟨-, request, hasked⟩ := hasking
    have hfailed := hl.stopped (hstopped.resolve_right (by simp [hl.uncanceled]))
    exact ⟨n, hl.setProduction silent_moved s.scene (by rw [hproduction]; rfl)
      ⟨_, hasked.append (by simp), .inr (.inr hfailed)⟩⟩
  | offers hproduction | claims hproduction | queues hproduction | wakes hproduction =>
    rw [hproduction] at hasking
    obtain ⟨hindex, request, hasked⟩ := hasking
    exact ⟨n, hl.setProduction silent_moved s.scene (by rw [hproduction]; rfl)
      ⟨hindex, request, hasked.append (by simp)⟩⟩
  | adds hproduction => exact ⟨n + 1, hl.addJob hproduction⟩
  | drains hproduction =>
    rw [hproduction] at hasking
    obtain ⟨last, hasked, hreason⟩ := hasking
    have hwriters := hl.writers
    rw [hproduction] at hwriters
    refine ⟨n, hl.frame silent_moved rfl ⟨rfl, rfl, rfl⟩ ⟨rfl, rfl, rfl⟩ ?_ id (hl.cause_append _)
      ⟨last, hasked.append (by simp [Happening.seen]),
        hreason.imp_left (And.imp_right (List.mem_append_left _))⟩⟩
    simp only [State.endProduction, Outlet.dropWriter, Production.writers] at hwriters ⊢
    omega
  | drainsCanceled _ _ _ hcanceled => simp [hl.uncanceled] at hcanceled

/-- A result that is read was in the outlet. -/
theorem read {o : Outcome} {outlet : Outlet Outcome} (hl : Ledger p h s taken n)
    (hnext : s.outlet.next = some (.ok (some o), outlet)) :
    Ledger p (h ++ [.moved]) { s with outlet } (taken ++ [o]) n := by
  unfold Outlet.next at hnext
  split at hnext
  · cases hnext
  · split at hnext
    · next rest hbuffer =>
      cases hnext
      refine hl.frame silent_moved rfl ⟨rfl, rfl, rfl⟩ ⟨?_, rfl, rfl⟩ hl.writers id
        (hl.cause_append _) (hl.asking.append (by simp) rfl id id)
      rw [hbuffer, List.append_assoc]
      rfl
    · split at hnext <;> cases hnext

/-- The ledger of a batch that has just begun. -/
theorem start {scene : Scene σ} (hlaunch : p.launch scene false = .ok s) :
    Ledger p [] s [] 0 := by
  unfold Plan.launch at hlaunch
  split at hlaunch
  · cases hlaunch
    have hcapacity : 0 < (p.start scene false).outlet.capacity :=
      Nat.lt_of_lt_of_le Nat.zero_lt_one (Nat.le_max_right _ _)
    exact {
      asking := ⟨rfl, by simp [Asked]⟩
      distinct := List.nodup_nil
      stories := ⟨by simp, fun _ _ => ⟨rfl, rfl, rfl, rfl⟩, fun _ _ => rfl⟩
      writers := rfl
      capacity := hcapacity
      attended := rfl
      uncanceled := rfl
      stopped := by simp [Plan.start]
      reported := by simp [Plan.start]
      cause := by simp [Plan.start, Outlet.ofCapacity] }
  · cases hlaunch

/-- The ledger is kept up to the end of the results, and the end is what the outlet gives then. -/
theorem of_seen {s₀ : State σ} {scene : Scene σ} {c : Collection σ}
    (hlaunch : p.launch scene false = .ok s₀) (hrun : Run p s₀ h c) :
    match c.ending with
    | none => ∃ n, Ledger p (h.map Happening.seen) c.state c.taken n
    | some none => ∃ s n outlet, Ledger p (h.map Happening.seen) s c.taken n ∧
        s.outlet.next = some (.ok none, outlet)
    | some (some f) => ∃ s n outlet, Ledger p (h.map Happening.seen) s c.taken n ∧
        s.outlet.next = some (.error f, outlet) := by
  induction hrun with
  | start => exact ⟨0, Ledger.start hlaunch⟩
  | @turn h e c c' hrun hrunning hturn ih =>
    rw [hrunning] at ih
    obtain ⟨n, hl⟩ := ih
    rw [List.map_append, List.map_singleton]
    cases hturn with
    | produces hstep =>
      simp only [hrunning]
      exact hl.produce (.of_produce hstep)
    | advances hj hstep =>
      simp only [hrunning, seen_shownByJob]
      exact ⟨n, hl.step hj (.of_step hstep)⟩
    | @reads answer outlet hnext =>
      have hmoved : Ledger p (h.map Happening.seen ++ [.moved]) c.state c.taken n :=
        hl.setScene silent_moved (by simp) c.state.scene
      match answer with
      | .ok (some o) =>
        simp only [Collection.read, hrunning]
        exact ⟨n, hl.read hnext⟩
      | .ok none => exact ⟨c.state, n, outlet, hmoved, hnext⟩
      | .error f => exact ⟨c.state, n, outlet, hmoved, hnext⟩
    | passes hle =>
      simp only [Collection.later, hrunning]
      exact ⟨n, hl.setScene silent_passed (by simp) _⟩

/-- The ledger is kept in full if the producer does not crash. -/
theorem of_run {s₀ : State σ} {scene : Scene σ} {c : Collection σ}
    (hlaunch : p.launch scene false = .ok s₀)
    (hproducer : ∀ i world crash, (p.producer i world).1 ≠ .error (.crash crash))
    (hrun : Run p s₀ h c) :
    match c.ending with
    | none => ∃ n, Ledger p h c.state c.taken n
    | some none => ∃ s n outlet, Ledger p h s c.taken n ∧
        s.outlet.next = some (.ok none, outlet)
    | some (some f) => ∃ s n outlet, Ledger p h s c.taken n ∧
        s.outlet.next = some (.error f, outlet) := by
  have hseen := of_seen hlaunch hrun
  rwa [hrun.map_seen hproducer] at hseen

end Ledger

end Courier.Batch
