import Courier.Batch.Run
import Mathlib.Data.List.Nodup

/-!
# Results in order

Results leave a batch in any order and are put in the order of their indices at the end. What
comes out is decided by the responses at each index alone (`collected_eq`).
-/

namespace Courier.Batch

/-- The responses among some results that belong to an index. -/
def responsesOf (results : List Outcome) (index : Nat) : List Response :=
  results.filterMap fun o => if o.index = index then some o.response else none

@[simp] theorem responsesOf_append (results results' : List Outcome) (index : Nat) :
    responsesOf (results ++ results') index =
      responsesOf results index ++ responsesOf results' index :=
  List.filterMap_append

theorem count_eq_count_responsesOf (results : List Outcome) (o : Outcome) :
    results.count o = (responsesOf results o.index).count o.response := by
  induction results with
  | nil => rfl
  | cons o' results ih =>
    obtain ⟨i, r⟩ := o
    obtain ⟨i', r'⟩ := o'
    rw [List.count_cons, ih]
    by_cases hi : i' = i <;> simp [hi, List.count_cons, responsesOf]

/-- Results with the same responses at each index are the same up to their order. -/
theorem perm_of_responsesOf {results results' : List Outcome}
    (h : ∀ i, responsesOf results i = responsesOf results' i) : results.Perm results' := by
  refine List.perm_iff_count.2 fun o => ?_
  rw [count_eq_count_responsesOf, count_eq_count_responsesOf, h]

/-- Results in the order of their indices, one at most for each index below a bound. -/
def inOrder (response : Nat → Option Response) (n : Nat) : List Outcome :=
  (List.range n).filterMap fun i => (response i).map (Outcome.mk i)

variable {response : Nat → Option Response} {n : Nat}

theorem map_response_inOrder :
    (inOrder response n).map Outcome.response = (List.range n).filterMap response := by
  simp [inOrder, List.map_filterMap, Function.comp_def]

theorem responsesOf_inOrder (i : Nat) :
    responsesOf (inOrder response n) i = if i < n then (response i).toList else [] := by
  induction n with
  | zero => rfl
  | succ n ih =>
    have hlast : responsesOf ([n].filterMap fun i => (response i).map (Outcome.mk i)) i =
        if i = n then (response i).toList else [] := by
      by_cases hi : i = n
      · subst hi
        cases hr : response i <;> simp [hr, responsesOf]
      · have hni : ¬n = i := fun h => hi h.symm
        cases hr : response n <;> simp [hr, responsesOf, hi, hni]
    unfold inOrder at ih ⊢
    rw [List.range_succ, List.filterMap_append, responsesOf_append, ih, hlast]
    rcases Nat.lt_trichotomy i n with hi | rfl | hi
    · simp [hi, Nat.ne_of_lt hi, Nat.lt_succ_of_lt hi]
    · simp
    · have hn : ¬i < n := by omega
      have hs : ¬i < n + 1 := by omega
      simp [hn, hs, Nat.ne_of_gt hi]

theorem pairwise_inOrder : (inOrder response n).Pairwise fun a b => a.index < b.index := by
  unfold inOrder
  rw [List.pairwise_filterMap]
  refine List.Pairwise.imp ?_ List.pairwise_lt_range
  intro a b hab o ho o' ho'
  obtain ⟨_, _, rfl⟩ := Option.map_eq_some_iff.1 ho
  obtain ⟨_, _, rfl⟩ := Option.map_eq_some_iff.1 ho'
  exact hab

theorem eq_of_index_eq {a b : Outcome} (ha : a ∈ inOrder response n) (hb : b ∈ inOrder response n)
    (h : a.index = b.index) : a = b := by
  have hnodup : ((inOrder response n).map Outcome.index).Nodup :=
    List.pairwise_map.2 (pairwise_inOrder.imp Nat.ne_of_lt)
  exact List.inj_on_of_nodup_map hnodup ha hb h

theorem mergeSort_eq_inOrder {results : List Outcome} (h : results.Perm (inOrder response n)) :
    (results.mergeSort fun a b => a.index ≤ b.index) = inOrder response n := by
  have hsorted : (inOrder response n).Pairwise fun a b => decide (a.index ≤ b.index) = true :=
    pairwise_inOrder.imp fun hab => decide_eq_true (Nat.le_of_lt hab)
  have hresults : (results.mergeSort fun a b => a.index ≤ b.index).Pairwise
      fun a b => decide (a.index ≤ b.index) = true :=
    List.pairwise_mergeSort (fun _ _ _ => by simpa using Nat.le_trans)
      (fun _ _ => by simpa using Nat.le_total _ _) results
  have hperm := (List.mergeSort_perm results fun a b => a.index ≤ b.index).trans h
  refine List.Perm.eq_of_pairwise (fun a b ha hb hab hba => ?_) hresults hsorted hperm
  simp only [decide_eq_true_eq] at hab hba
  exact eq_of_index_eq (hperm.mem_iff.1 ha) hb (Nat.le_antisymm hab hba)

/-! ## What is collected -/

theorem mapM_id_ok (results : List Outcome) :
    ((results.map Except.ok : List (Except Failure Outcome)).mapM id) = .ok results := by
  induction results with
  | nil => rfl
  | cons o results ih =>
    rw [List.map_cons, List.mapM_cons, ih]
    rfl

/-- Without a failure there is a list. -/
theorem exists_collected (results : List Outcome) :
    ∃ responses, collected (results.map Except.ok) = .ok responses := by
  rw [collected, mapM_id_ok]
  exact ⟨_, rfl⟩

/-- A failure at the end is all that is collected. -/
theorem collected_error (results : List Outcome) (f : Failure) :
    collected (results.map Except.ok ++ [.error f]) = .error f := by
  have hfail : ((results.map Except.ok ++ [.error f] : List (Except Failure Outcome)).mapM id) =
      .error f := by
    rw [List.mapM_append, mapM_id_ok]
    rfl
  rw [collected, hfail]
  rfl

/-- One response at most for each index below a bound, and none above, are collected in order. -/
theorem collected_eq {results : List Outcome}
    (h : ∀ i, responsesOf results i = if i < n then (response i).toList else []) :
    collected (results.map Except.ok) = .ok ((List.range n).filterMap response) := by
  have hperm : results.Perm (inOrder response n) :=
    perm_of_responsesOf fun i => (h i).trans (responsesOf_inOrder i).symm
  simp only [collected, mapM_id_ok, mergeSort_eq_inOrder hperm, map_response_inOrder, Except.map]

end Courier.Batch
