import Courier.Proofs.Batch.Collection
import Courier.Proofs.Batch.Order

/-!
# The stories of jobs

What the history of a run says of one job grows only when something happens to this job, and is
short : its call ends once, and the handler is asked once at most. `Story` says how this fits with
what the job does next and with what was delivered for it. A job that leaves has settled and its
response, if it has one, was delivered ; or it has given up because the batch has failed.
-/

namespace Courier.Batch

variable {σ : Type} {p : Plan σ} {h : List Happening} {e : Happening} {i k n : Nat}

/-! ## Longer histories -/

/-- Something that happens to one job, or to none. -/
def Happening.Concerns (e : Happening) (index : Nat) : Prop :=
  match e with
  | .asked .. => False
  | .called i _ => i = index
  | .handled i _ _ => i = index
  | .moved => True
  | .passed => True

/-- Something that happens to no job. -/
def Happening.Silent : Happening → Prop
  | .called .. => False
  | .handled .. => False
  | _ => True

theorem callsOf_append (h h' : List Happening) (i : Nat) :
    callsOf (h ++ h') i = callsOf h i ++ callsOf h' i :=
  List.filterMap_append

theorem handledOf_append (h h' : List Happening) (i : Nat) :
    handledOf (h ++ h') i = handledOf h i ++ handledOf h' i :=
  List.filterMap_append

theorem silent_moved : Happening.moved.Silent :=
  trivial

theorem silent_passed : Happening.passed.Silent :=
  trivial

theorem silent_asked (i : Nat) (answer : Answer Failure (Option Request)) :
    (Happening.asked i answer).Silent :=
  trivial

theorem callsOf_concat_called (answer : Answer Failure Response) :
    callsOf (h ++ [.called i answer]) i = callsOf h i ++ [answer] := by
  rw [callsOf_append]
  simp [callsOf]

theorem handledOf_concat_called (answer : Answer Failure Response) :
    handledOf (h ++ [.called k answer]) i = handledOf h i := by
  rw [handledOf_append]
  simp [handledOf]

theorem callsOf_concat_handled (f : Failure) (answer : Answer Failure (Option Response)) :
    callsOf (h ++ [.handled k f answer]) i = callsOf h i := by
  rw [callsOf_append]
  simp [callsOf]

theorem handledOf_concat_handled (f : Failure) (answer : Answer Failure (Option Response)) :
    handledOf (h ++ [.handled i f answer]) i = handledOf h i ++ [(f, answer)] := by
  rw [handledOf_append]
  simp [handledOf]

theorem callsOf_concat_of_silent (he : e.Silent) (i : Nat) :
    callsOf (h ++ [e]) i = callsOf h i := by
  cases e <;> simp_all [callsOf, Happening.Silent]

theorem handledOf_concat_of_silent (he : e.Silent) (i : Nat) :
    handledOf (h ++ [e]) i = handledOf h i := by
  cases e <;> simp_all [handledOf, Happening.Silent]

theorem callsOf_concat_of_ne (he : e.Concerns i) (hk : k ≠ i) :
    callsOf (h ++ [e]) k = callsOf h k := by
  cases e <;> simp_all [callsOf, Happening.Concerns]
  omega

theorem handledOf_concat_of_ne (he : e.Concerns i) (hk : k ≠ i) :
    handledOf (h ++ [e]) k = handledOf h k := by
  cases e <;> simp_all [handledOf, Happening.Concerns]
  omega

theorem mem_callsOf {answer : Answer Failure Response} :
    answer ∈ callsOf h i ↔ .called i answer ∈ h := by
  unfold callsOf
  rw [List.mem_filterMap]
  refine ⟨?_, fun he => ⟨_, he, by simp⟩⟩
  rintro ⟨e, he, hanswer⟩
  cases e <;> simp at hanswer
  obtain ⟨rfl, rfl⟩ := hanswer
  exact he

theorem mem_handledOf {f : Failure} {answer : Answer Failure (Option Response)} :
    (f, answer) ∈ handledOf h i ↔ .handled i f answer ∈ h := by
  unfold handledOf
  rw [List.mem_filterMap]
  refine ⟨?_, fun he => ⟨_, he, by simp⟩⟩
  rintro ⟨e, he, hanswer⟩
  cases e <;> simp at hanswer
  obtain ⟨rfl, rfl, rfl⟩ := hanswer
  exact he

theorem Fails.append {f : Failure} (hf : Fails p h i f) (h' : List Happening) :
    Fails p (h ++ h') i f := by
  have hmem {e : Happening} (he : e ∈ h) : e ∈ h ++ h' := List.mem_append_left _ he
  cases hf with
  | unhandled hhandler hcall => exact .unhandled hhandler (hmem hcall)
  | handler hcall hhandled => exact .handler (hmem hcall) (hmem hhandled)
  | crashed hcall => exact .crashed (hmem hcall)
  | handlerCrashed hcall hhandled => exact .handlerCrashed (hmem hcall) (hmem hhandled)

theorem Cause.append {f : Failure} (hf : Cause p h f) (h' : List Happening) :
    Cause p (h ++ h') f := by
  cases hf with
  | job hfails => exact .job (hfails.append h')
  | production hasked => exact .production (List.mem_append_left _ hasked)

theorem Settles.congr {h' : List Happening} {response : Option Response}
    (hs : Settles h i response) (hc : callsOf h' i = callsOf h i)
    (hh : handledOf h' i = handledOf h i) : Settles h' i response := by
  cases hs with
  | answered hcall hhandled => exact .answered (hc.trans hcall) (hh.trans hhandled)
  | recovered hcall hhandled => exact .recovered (hc.trans hcall) (hh.trans hhandled)

theorem Settles.silent {response : Option Response} (hs : Settles h i response) (he : e.Silent) :
    Settles (h ++ [e]) i response :=
  hs.congr (callsOf_concat_of_silent he i) (handledOf_concat_of_silent he i)

/-- A job does not settle and fail. -/
theorem Settles.not_fails {f : Failure} {response : Option Response} (hs : Settles h i response)
    (hhandler : p.handler.isNone → handledOf h i = []) : ¬Fails p h i f := by
  intro hf
  cases hs with
  | answered hcall hhandled =>
    cases hf with
    | unhandled _ hmem => simp [← mem_callsOf, hcall] at hmem
    | handler hmem _ => simp [← mem_callsOf, hcall] at hmem
    | crashed hmem => simp [← mem_callsOf, hcall] at hmem
    | handlerCrashed hmem _ => simp [← mem_callsOf, hcall] at hmem
  | recovered hcall hhandled =>
    cases hf with
    | unhandled hnone _ => simp [hhandler hnone] at hhandled
    | handler _ hmem => simp [← mem_handledOf, hhandled] at hmem
    | crashed hmem => simp [← mem_callsOf, hcall] at hmem
    | handlerCrashed _ hmem => simp [← mem_handledOf, hhandled] at hmem

/-! ## The stories of the jobs -/

/-- How far a job has come, by what it does next, and what was delivered for it. Nothing is left
to do for a job that has settled or given up. -/
def Story (p : Plan σ) (h : List Happening) (canceled failed : Bool) (delivered : List Response)
    (index : Nat) : Option Work → Prop
  | some .begins => callsOf h index = [] ∧ handledOf h index = [] ∧ delivered = []
  | some (.calls ..) => callsOf h index = [] ∧ handledOf h index = [] ∧ delivered = []
  | some (.handles f) =>
    callsOf h index = [.error (.error f)] ∧ handledOf h index = [] ∧ delivered = []
  | some (.answers response) => Settles h index (some response) ∧ delivered = []
  | some (.delivers response) => Settles h index (some response) ∧ delivered = []
  | some (.fails f) => (canceled ∨ Fails p h index f) ∧ delivered = []
  | some (.reports f) => (canceled ∨ Fails p h index f) ∧ failed ∧ delivered = []
  | some .stops => failed ∧ delivered = []
  | some .leaves =>
    (∃ response, Settles h index response ∧ delivered = response.toList) ∨
      (failed ∧ delivered = [])
  | none =>
    (∃ response, Settles h index response ∧ delivered = response.toList) ∨
      (failed ∧ delivered = [])

/-- What happens elsewhere does not change a story. -/
theorem Story.congr {h' : List Happening} {canceled canceled' failed failed' : Bool}
    {delivered : List Response} {work : Option Work}
    (hs : Story p h canceled failed delivered i work) (hh : h <+: h')
    (hcalls : callsOf h' i = callsOf h i) (hhandled : handledOf h' i = handledOf h i)
    (hcanceled : canceled → canceled') (hfailed : failed → failed') :
    Story p h' canceled' failed' delivered i work := by
  obtain ⟨later, rfl⟩ := hh
  have hfails {f : Failure} : canceled ∨ Fails p h i f → canceled' ∨ Fails p (h ++ later) i f :=
    Or.imp hcanceled (·.append later)
  match work with
  | some .begins | some (.calls ..) => exact ⟨hcalls.trans hs.1, hhandled.trans hs.2.1, hs.2.2⟩
  | some (.handles _) => exact ⟨hcalls.trans hs.1, hhandled.trans hs.2.1, hs.2.2⟩
  | some (.answers _) | some (.delivers _) => exact ⟨hs.1.congr hcalls hhandled, hs.2⟩
  | some (.fails _) => exact ⟨hfails hs.1, hs.2⟩
  | some (.reports _) => exact ⟨hfails hs.1, hfailed hs.2.1, hs.2.2⟩
  | some .stops => exact ⟨hfailed hs.1, hs.2⟩
  | some .leaves | none =>
    exact hs.imp (fun ⟨response, hr, hd⟩ => ⟨response, hr.congr hcalls hhandled, hd⟩)
      (And.imp_left hfailed)

theorem Story.silent {canceled canceled' failed failed' : Bool} {delivered : List Response}
    {work : Option Work} (hs : Story p h canceled failed delivered i work) (he : e.Silent)
    (hcanceled : canceled → canceled') (hfailed : failed → failed') :
    Story p (h ++ [e]) canceled' failed' delivered i work :=
  hs.congr (List.prefix_append _ _) (callsOf_concat_of_silent he i)
    (handledOf_concat_of_silent he i) hcanceled hfailed

/-- The stories of all jobs so far. There are none for indices from `n` on. -/
structure Stories (p : Plan σ) (h : List Happening) (work : Nat → Option Work)
    (canceled failed : Bool) (outcomes : List Outcome) (n : Nat) : Prop where
  told : ∀ i < n, Story p h canceled failed (responsesOf outcomes i) i (work i)
  blank : ∀ i, n ≤ i →
    work i = none ∧ callsOf h i = [] ∧ handledOf h i = [] ∧ responsesOf outcomes i = []
  unhandled : p.handler.isNone → ∀ i, handledOf h i = []

namespace Stories

variable {work work' : Nat → Option Work} {canceled canceled' failed failed' : Bool}
  {outcomes outcomes' : List Outcome}

/-- Only jobs that were added have work. -/
theorem lt_of_work {w : Work} (hs : Stories p h work canceled failed outcomes n)
    (hw : work i = some w) : i < n := by
  refine Nat.lt_of_not_le fun hi => ?_
  rw [(hs.blank i hi).1] at hw
  cases hw

/-- The failures of a job come after it was added. -/
theorem lt_of_fails {f : Failure} (hs : Stories p h work canceled failed outcomes n)
    (hf : Fails p h i f) : i < n := by
  refine Nat.lt_of_not_le fun hi => ?_
  have hcalls := (hs.blank i hi).2.1
  cases hf with
  | unhandled _ hmem => simp [← mem_callsOf, hcalls] at hmem
  | handler hmem _ => simp [← mem_callsOf, hcalls] at hmem
  | crashed hmem => simp [← mem_callsOf, hcalls] at hmem
  | handlerCrashed hmem _ => simp [← mem_callsOf, hcalls] at hmem

/-- What happens to no job leaves all stories as they are. -/
theorem silent (hs : Stories p h work canceled failed outcomes n) (he : e.Silent)
    (hcanceled : canceled → canceled') (hfailed : failed → failed') :
    Stories p (h ++ [e]) work canceled' failed' outcomes n where
  told i hi := (hs.told i hi).silent he hcanceled hfailed
  blank i hi := by
    rw [callsOf_concat_of_silent he, handledOf_concat_of_silent he]
    exact hs.blank i hi
  unhandled hnone i := (handledOf_concat_of_silent he i).trans (hs.unhandled hnone i)

/-- What happens to one job leaves the stories of the others as they are. -/
theorem concerning (hs : Stories p h work canceled failed outcomes n) (hi : i < n)
    (he : e.Concerns i) (hcanceled : canceled → canceled') (hfailed : failed → failed')
    (hwork : ∀ k, k ≠ i → work' k = work k)
    (houtcomes : ∀ k, k ≠ i → responsesOf outcomes' k = responsesOf outcomes k)
    (hstory : Story p (h ++ [e]) canceled' failed' (responsesOf outcomes' i) i (work' i))
    (hunhandled : p.handler.isNone → handledOf (h ++ [e]) i = []) :
    Stories p (h ++ [e]) work' canceled' failed' outcomes' n where
  told k hk := by
    by_cases hki : k = i
    · exact hki ▸ hstory
    · rw [hwork k hki, houtcomes k hki]
      exact (hs.told k hk).congr (List.prefix_append _ _) (callsOf_concat_of_ne he hki)
        (handledOf_concat_of_ne he hki) hcanceled hfailed
  blank k hk := by
    have hki : k ≠ i := by omega
    rw [hwork k hki, houtcomes k hki, callsOf_concat_of_ne he hki, handledOf_concat_of_ne he hki]
    exact hs.blank k hk
  unhandled hnone k := by
    by_cases hki : k = i
    · exact hki ▸ hunhandled hnone
    · rw [handledOf_concat_of_ne he hki, hs.unhandled hnone k]

/-- A new job begins its story. -/
theorem add (hs : Stories p h work canceled failed outcomes n)
    (hwork : ∀ k, work' k = if k = n then some .begins else work k) :
    Stories p h work' canceled failed outcomes (n + 1) where
  told k hk := by
    rw [hwork k]
    by_cases hkn : k = n
    · subst hkn
      rw [if_pos rfl]
      exact (hs.blank k (Nat.le_refl k)).2
    · rw [if_neg hkn]
      exact hs.told k (by omega)
  blank k hk := by
    rw [hwork k, if_neg (by omega)]
    exact hs.blank k (by omega)
  unhandled := hs.unhandled

end Stories

end Courier.Batch
