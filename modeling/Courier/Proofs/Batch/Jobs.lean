import Courier.Batch
import Mathlib.Algebra.GroupWithZero.Nat
import Mathlib.Data.List.Nodup

/-!
# The jobs of a batch

Jobs are found by their indices, which are distinct. A step of a job changes the work at its
index, or takes the job away ; production adds a job at the end. `State.workAt` says what is left
to do at an index, and `State.effort` sums up a measure of it over all jobs.
-/

namespace Courier.Batch

variable {σ : Type}

namespace State

variable {s : State σ} {j : Job} {i k : Nat} {work : Work} {request : Request}

/-- What the job at an index does next, if there is one. -/
def workAt (s : State σ) (index : Nat) : Option Work :=
  (s.job? index).map Job.work

/-- The sum of a measure over the work of all jobs. -/
def effort (s : State σ) (measure : Work → Nat) : Nat :=
  (s.jobs.map (measure ·.work)).sum

/-- No two jobs have the same index. -/
def Distinct (s : State σ) : Prop :=
  (s.jobs.map Job.index).Nodup

/-! ## Finding jobs -/

theorem job?_index (h : s.job? i = some j) : j.index = i := by
  simpa using List.find?_some h

theorem mem_of_job? (h : s.job? i = some j) : j ∈ s.jobs :=
  List.mem_of_find?_eq_some h

theorem workAt_of_job? (h : s.job? i = some j) : s.workAt i = some j.work := by
  simp [workAt, h]

/-- Every job is found at its index. -/
theorem job?_of_mem (hs : s.Distinct) (h : j ∈ s.jobs) : s.job? j.index = some j := by
  obtain ⟨k, hk⟩ : ∃ k, s.job? j.index = some k := by
    rw [← Option.isSome_iff_exists]
    exact List.find?_isSome.2 ⟨j, h, by simp⟩
  have hkj : k = j :=
    List.inj_on_of_nodup_map hs (mem_of_job? hk) h (job?_index hk)
  rw [hk, hkj]

/-- A job stands among others. -/
theorem exists_split (hs : s.Distinct) (h : s.job? i = some j) :
    ∃ before after, s.jobs = before ++ j :: after ∧ ∀ k ∈ before ++ after, k.index ≠ i := by
  obtain ⟨before, after, hsplit⟩ := List.append_of_mem (mem_of_job? h)
  refine ⟨before, after, hsplit, fun k hk hindex => ?_⟩
  have hnodup : (j :: (before ++ after)).map Job.index |>.Nodup := by
    unfold Distinct at hs
    rw [hsplit] at hs
    exact (List.perm_middle.map Job.index).nodup_iff.1 hs
  rw [List.map_cons, List.nodup_cons, job?_index h] at hnodup
  exact hnodup.1 (hindex ▸ List.mem_map_of_mem hk)

/-! ## The same jobs -/

section

variable {s' : State σ} (h : s'.jobs = s.jobs)

include h

theorem job?_congr (i : Nat) : s'.job? i = s.job? i := by
  unfold job?
  rw [h]

theorem workAt_congr : s'.workAt = s.workAt := by
  funext i
  unfold workAt
  rw [job?_congr h]

theorem Distinct.congr (hs : s.Distinct) : s'.Distinct := by
  unfold Distinct
  rw [h]
  exact hs

theorem effort_congr (measure : Work → Nat) : s'.effort measure = s.effort measure := by
  unfold effort
  rw [h]

end

/-! ## Other work at an index -/

@[simp] theorem map_index_setWork :
    (s.setWork i work).jobs.map Job.index = s.jobs.map Job.index := by
  simp only [setWork, List.map_map]
  refine List.map_congr_left fun k _ => ?_
  simp only [Function.comp]
  split <;> rfl

theorem Distinct.setWork (hs : s.Distinct) : (s.setWork i work).Distinct := by
  unfold Distinct
  rwa [map_index_setWork]

@[simp] theorem length_setWork : (s.setWork i work).jobs.length = s.jobs.length := by
  simp [setWork]

theorem workAt_setWork (h : s.job? i = some j) :
    (s.setWork i work).workAt k = if k = i then some work else s.workAt k := by
  have hfind : (s.setWork i work).job? k =
      (s.job? k).map fun j => if j.index = i then { j with work } else j := by
    simp only [job?, setWork, List.find?_map]
    congr 2
    funext l
    simp only [Function.comp]
    split <;> rfl
  unfold workAt
  rw [hfind]
  by_cases hk : k = i
  · subst hk
    simp [h, job?_index h]
  · rw [if_neg hk]
    cases hjob : s.job? k with
    | none => rfl
    | some l =>
      have hl : ¬l.index = i := fun hl => hk (job?_index hjob ▸ hl)
      simp [hl]

theorem effort_setWork (hs : s.Distinct) (h : s.job? i = some j) (measure : Work → Nat) :
    (s.setWork i work).effort measure + measure j.work = s.effort measure + measure work := by
  obtain ⟨before, after, hsplit, hothers⟩ := exists_split hs h
  have hsame (l : List Job) (hl : ∀ k ∈ l, k.index ≠ i) :
      l.map (fun k => if k.index = i then { k with work } else k) = l :=
    (List.map_congr_left fun k hk => if_neg (hl k hk)).trans (List.map_id' l)
  have hjobs : (s.setWork i work).jobs = before ++ { j with work } :: after := by
    simp only [setWork, hsplit, List.map_append, List.map_cons, job?_index h, if_true]
    rw [hsame before fun k hk => hothers k (by simp [hk]),
      hsame after fun k hk => hothers k (by simp [hk])]
  simp only [effort, hjobs, hsplit, List.map_append, List.map_cons, List.sum_append, List.sum_cons]
  omega

/-! ## One job more -/

theorem Distinct.addJob (hs : s.Distinct) (h : s.job? i = none) :
    (s.addJob i request).Distinct := by
  have hfresh (j : Job) (hj : j ∈ s.jobs) : j.index ≠ i := by
    rintro rfl
    rw [job?_of_mem hs hj] at h
    cases h
  unfold Distinct at hs ⊢
  simp only [State.addJob, List.map_append, List.map_cons, List.map_nil]
  refine List.nodup_append.2 ⟨hs, by simp, fun a ha b hb => ?_⟩
  obtain ⟨j, hj, rfl⟩ := List.mem_map.1 ha
  rw [List.mem_singleton.1 hb]
  exact hfresh j hj

theorem workAt_addJob (h : s.job? i = none) :
    (s.addJob i request).workAt k = if k = i then some .begins else s.workAt k := by
  unfold workAt job? State.addJob at *
  rw [List.find?_append]
  by_cases hk : k = i
  · subst hk
    simp [h]
  · have hne : ¬i = k := fun hik => hk hik.symm
    simp [hk, hne]

theorem effort_addJob (measure : Work → Nat) :
    (s.addJob i request).effort measure = s.effort measure + measure .begins := by
  simp [effort, State.addJob]

/-! ## One job less -/

theorem Distinct.dropJob (hs : s.Distinct) : (s.dropJob i).Distinct :=
  List.Nodup.sublist (List.filter_sublist.map _) hs

theorem workAt_dropJob : (s.dropJob i).workAt k = if k = i then none else s.workAt k := by
  unfold workAt job? State.dropJob
  simp only [List.find?_filter]
  by_cases hk : k = i
  · subst hk
    simp
  · have hcond (l : Job) : (decide (l.index ≠ i) = true ∧ decide (l.index = k) = true) ↔
        l.index = k := by
      simp only [decide_eq_true_eq, and_iff_right_iff_imp]
      exact fun hl hi => hk (hl.symm.trans hi)
    simp only [hcond, if_neg hk]

theorem jobs_dropJob (hs : s.Distinct) (h : s.job? i = some j) :
    ∃ before after, s.jobs = before ++ j :: after ∧ (s.dropJob i).jobs = before ++ after := by
  obtain ⟨before, after, hsplit, hothers⟩ := exists_split hs h
  refine ⟨before, after, hsplit, ?_⟩
  have hsame : (before ++ after).filter (·.index ≠ i) = before ++ after :=
    List.filter_eq_self.2 fun k hk => by simpa using hothers k hk
  rw [List.filter_append] at hsame
  simp only [State.dropJob, hsplit, List.filter_append, List.filter_cons]
  simpa [job?_index h] using hsame

theorem length_dropJob (hs : s.Distinct) (h : s.job? i = some j) :
    (s.dropJob i).jobs.length + 1 = s.jobs.length := by
  obtain ⟨before, after, hsplit, hdrop⟩ := jobs_dropJob hs h
  rw [hsplit, hdrop]
  simp only [List.length_append, List.length_cons]
  omega

theorem effort_dropJob (hs : s.Distinct) (h : s.job? i = some j) (measure : Work → Nat) :
    (s.dropJob i).effort measure + measure j.work = s.effort measure := by
  obtain ⟨before, after, hsplit, hdrop⟩ := jobs_dropJob hs h
  simp only [effort, hsplit, hdrop, List.map_append, List.map_cons, List.sum_append, List.sum_cons]
  omega

end State

end Courier.Batch
