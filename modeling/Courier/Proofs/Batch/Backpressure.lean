import Courier.Proofs.Batch.Protocol
import Courier.Proofs.Batch.Session
import Mathlib.Data.List.Perm.Subperm

/-!
# How much a batch takes on

A batch with so many workers has no more jobs at a time, and no more results wait in its outlet,
however fast its requests come and its results are read. So its producer is not asked for many
requests ahead of what the reader has taken (`Session.bounded_load`). In an endless batch whose
results nobody reads, the bound is reached (`Session.bounded_load_endless`).
-/

namespace Courier.Batch

/-- Whether the request of a job is on its way. -/
def Job.inFlight (j : Job) : Bool :=
  match j.work with
  | .calls _ _ (.flight ..) => true
  | _ => false

namespace Session

variable {σ : Type} {p : Plan σ} {s s' s₀ : State σ} {e : Deed} {h : List Deed} {j : Job}

/-- The jobs that are done without a response of theirs in the outlet. -/
def undelivered (h : List Deed) : List Nat :=
  (finished h).filter (· ∉ delivered h)

/-! ## What goes through the outlet -/

/-- What the outlet knows of the results that came and went. -/
structure Flow (p : Plan σ) (h : List Deed) (s : State σ) : Prop where
  capacity : s.outlet.capacity = max p.batch.workers 1
  room : s.outlet.buffer.length ≤ s.outlet.capacity
  /-- Results that were not read are in the outlet, or were when the reader left. -/
  passage : (delivered h).length ≤ (taken h).length +
    if s.outlet.closed then s.outlet.capacity else s.outlet.buffer.length

namespace Flow

theorem start {scene : Scene σ} {canceled : Bool} (hlaunch : p.launch scene canceled = .ok s) :
    Flow p [] s := by
  obtain rfl := eq_start_of_launch hlaunch
  exact ⟨rfl, Nat.zero_le _, Nat.zero_le _⟩

/-- Something else than that a result comes or goes. -/
theorem congr (hf : Flow p h s) (hcapacity : s'.outlet.capacity = s.outlet.capacity)
    (hbuffer : s'.outlet.buffer = s.outlet.buffer) (hclosed : s'.outlet.closed = s.outlet.closed)
    (hd : delivered [e] = []) (ht : taken [e] = []) : Flow p (h ++ [e]) s' := by
  constructor
  case capacity => exact hcapacity.trans hf.capacity
  case room => simpa [hcapacity, hbuffer] using hf.room
  case passage => simpa [hcapacity, hbuffer, hclosed, hd, ht] using hf.passage

theorem step (hf : Flow p h s) (heffect : JobEffect s j e s') : Flow p (h ++ [e]) s' := by
  cases heffect with
  | works _ _ _ houtlet =>
    refine hf.congr ?_ ?_ ?_ rfl rfl <;> simp [State.setWork, houtlet]
  | @delivers o _ haccepts hroom =>
    have hopen : s.outlet.closed = false := (Bool.or_eq_false_iff.1 haccepts).2
    have hpassage := hf.passage
    have hd : delivered (h ++ [.delivers j.index]) = delivered h ++ [j.index] := by
      simp [delivered]
    have ht : taken (h ++ [.delivers j.index]) = taken h := by simp [taken]
    rw [hopen] at hpassage
    constructor
    case capacity => exact hf.capacity
    case room => simpa [State.setWork] using Nat.succ_le_of_lt hroom
    case passage =>
      rw [hd, ht]
      simp only [State.setWork, hopen, Bool.false_eq_true, if_false, List.length_append,
        List.length_singleton] at hpassage ⊢
      omega
  | reports =>
    refine hf.congr ?_ ?_ ?_ rfl rfl <;> simp [State.setWork]
  | leaves => exact hf.congr rfl rfl rfl rfl rfl

theorem produce (hf : Flow p h s) (hstep : Batch.produce p s = some s') :
    Flow p (h ++ [doneByProduction p s]) s' := by
  have hd : delivered [doneByProduction p s] = [] := by
    unfold doneByProduction
    split <;> rfl
  have ht : taken [doneByProduction p s] = [] := by
    unfold doneByProduction
    split <;> rfl
  obtain ⟨_, hshown⟩ := exists_productionStep hstep
  cases hshown with
  | fails | drainsCanceled =>
    refine hf.congr ?_ ?_ ?_ hd ht <;> simp [State.endProduction, Outlet.dropWriter]
  | _ => exact hf.congr rfl rfl rfl hd ht

/-- What the reader reads. -/
theorem read {answer : Except Failure (Option Outcome)} {outlet : Outlet Outcome}
    (hf : Flow p h s) (hreader : s.outlet.closed = false)
    (hnext : s.outlet.next = some (answer, outlet)) :
    Flow p (h ++ [.reads answer]) { s with outlet } := by
  cases Outlet.Reading.of_next hnext with
  | fails => exact hf.congr rfl rfl rfl rfl rfl
  | ends => exact hf.congr rfl rfl rfl rfl rfl
  | @gives a rest _ hbuffer =>
    have hpassage := hf.passage
    have hroom := hf.room
    have hd : delivered (h ++ [.reads (.ok (some a))]) = delivered h := by simp [delivered]
    have ht : taken (h ++ [.reads (.ok (some a))]) = taken h ++ [a] := by simp [taken]
    rw [hreader, hbuffer] at hpassage
    rw [hbuffer] at hroom
    constructor
    case capacity => exact hf.capacity
    case room => exact Nat.le_of_succ_le hroom
    case passage =>
      rw [hd, ht]
      simp only [hreader, Bool.false_eq_true, if_false, List.length_append, List.length_cons]
        at hpassage ⊢
      omega

/-- The reader leaves, and what is in the outlet is lost. -/
theorem close (hf : Flow p h s) (hreader : s.outlet.closed = false) :
    Flow p (h ++ [.leaves]) { s with outlet := s.outlet.close } := by
  have hpassage := hf.passage
  have hroom := hf.room
  have hd : delivered (h ++ [.leaves]) = delivered h := by simp [delivered]
  have ht : taken (h ++ [.leaves]) = taken h := by simp [taken]
  rw [hreader] at hpassage
  constructor
  case capacity => simpa [Outlet.close] using hf.capacity
  case room => simp [Outlet.close]
  case passage =>
    rw [hd, ht]
    simp only [Outlet.close, Outlet.capacity_cancel, if_true, Bool.false_eq_true, if_false]
      at hpassage ⊢
    omega

theorem move (hf : Flow p h s) (hmove : Move p s e s') : Flow p (h ++ [e]) s' := by
  cases hmove with
  | produces hstep => exact hf.produce hstep
  | advances _ hstep => exact hf.step (.of_step hstep)
  | reads hreader hnext => exact hf.read hreader hnext
  | dismisses => refine hf.congr ?_ ?_ ?_ rfl rfl <;> simp
  | leaves hreader => exact hf.close hreader
  | cancels | passes => exact hf.congr rfl rfl rfl rfl rfl

theorem of_course {scene : Scene σ} {canceled : Bool}
    (hlaunch : p.launch scene canceled = .ok s₀) (hcourse : Course p s₀ h s) : Flow p h s :=
  hcourse.invariant (Flow.start hlaunch) fun _ _ _ _ => move

end Flow

/-! ## The bound -/

/-- A job that is done has delivered its response, or it has not. -/
theorem length_finished_le (hnodup : (finished h).Nodup) :
    (finished h).length ≤ (undelivered h).length + (delivered h).length := by
  have hsplit := List.length_eq_length_filter_add (l := finished h) (· ∈ delivered h)
  have hsub : (finished h).filter (· ∈ delivered h) ⊆ delivered h := fun i hi => by
    simpa using (List.mem_filter.1 hi).2
  have hle := ((hnodup.filter _).subperm hsub).length_le
  unfold undelivered
  simp only [← decide_not] at hsplit
  omega

/-- In a batch with `n` workers at most `n` jobs are under way at any time, at most `n` of their
requests are on their way, and at most `n` results wait to be read. The producer is at most
`2 * n + 1` requests ahead of the results that were read and the jobs that came to nothing. -/
theorem bounded_load {scene : Scene σ} {canceled : Bool}
    (hlaunch : p.launch scene canceled = .ok s₀) (hworkers : 1 ≤ p.batch.workers)
    (hcourse : Course p s₀ h s) :
    (s.jobs.map Job.index ++ finished h).Perm (accepted h) ∧
    s.jobs.length ≤ p.batch.workers ∧
    (s.jobs.filter Job.inFlight).length ≤ p.batch.workers ∧
    s.outlet.buffer.length ≤ p.batch.workers ∧
    (yielded h).length ≤
      (taken h).length + (undelivered h).length + 2 * p.batch.workers + 1 := by
  have hc := Census.of_course hlaunch hcourse
  have hf := Flow.of_course hlaunch hcourse
  have hcapacity : s.outlet.capacity = p.batch.workers := by
    rw [hf.capacity, Nat.max_eq_left hworkers]
  have hjobs : s.jobs.length ≤ p.batch.workers :=
    calc s.jobs.length ≤ p.batch.places := Nat.le_of_add_right_le hc.places
      _ ≤ p.batch.workers := Nat.min_le_left _ _
  have hbuffer : s.outlet.buffer.length ≤ p.batch.workers := hcapacity ▸ hf.room
  refine ⟨hc.present, hjobs, Nat.le_trans (List.length_filter_le _ _) hjobs, hbuffer, ?_⟩
  have hyielded : (yielded h).length ≤ (accepted h).length + 1 := hc.stands.le
  have haccepted := hc.length_accepted
  have hfinished := length_finished_le (List.nodup_append.1 hc.nodup).2.1
  have hdelivered : (delivered h).length ≤ (taken h).length + p.batch.workers := by
    refine Nat.le_trans hf.passage (Nat.add_le_add_left ?_ _)
    split
    · exact Nat.le_of_eq hcapacity
    · exact hbuffer
  omega

/-- A batch with one worker whose producer has no end. -/
def endless : Plan Unit where
  batch := {
    client := {
      base := none
      transport := fun _ _ w => (⟨0, .ok ⟨200, none, {}, none, none⟩⟩, w)
      retryStatuses := []
      backoff := 0
      headers := {}
      contentType := ""
      tracing := {} }
    workers := 1 }
  producer := fun _ w => (.ok (some { target := "mem:a" }), w)

/-- Nobody reads. The first result is in the outlet, the second waits for room, and the third
request for a worker. -/
def unread : List Choice :=
  List.replicate 5 .produces ++ List.replicate 5 (.advances 0) ++
    List.replicate 5 .produces ++ List.replicate 3 (.advances 1) ++ List.replicate 4 .produces

theorem bounded_load_endless :
    let scene : Scene Unit := { clock := ⟨0, 0⟩, world := () }
    ∃ s₀ h s, endless.launch scene false = .ok s₀ ∧ Course endless s₀ h s ∧
      s.jobs.length ≤ 1 ∧ s.outlet.buffer.length ≤ 1 ∧
      (yielded h).length = 3 ∧
      (yielded h).length ≤ (taken h).length + (undelivered h).length + 2 * 1 + 1 ∧
      (taken h).length + (undelivered h).length = 0 := by
  intro scene
  have hlaunch : endless.launch scene false = .ok (endless.start scene false) := if_pos (by decide)
  have hshown : (play endless unread (endless.start scene false)).map
      (fun (h, _) => ((yielded h).length, (taken h).length + (undelivered h).length)) =
        some (3, 0) := by
    decide +kernel
  obtain ⟨⟨h, s⟩, hplay, hcounts⟩ := Option.map_eq_some_iff.1 hshown
  obtain ⟨hyielded, htaken⟩ := Prod.mk.inj hcounts
  have hcourse := Course.of_play unread hplay
  obtain ⟨-, hjobs, -, hbuffer, hbound⟩ := bounded_load hlaunch (Nat.le_refl 1) hcourse
  exact ⟨_, h, s, hlaunch, hcourse, hjobs, hbuffer, hyielded, hbound, htaken⟩

end Session

end Courier.Batch
