import Courier.Batch.Run
import Courier.Proofs.Batch.Steps
import Courier.Proofs.Path

/-!
# The protocol of an outlet

Any number of writers and one reader use an outlet in any order (`Outlet.Move`). What they do and
how the outlet answers is its history. `Outlet.Protocol` says, of the history of an outlet, what
its reader and its writers can rely on, and every course of an outlet is such
(`Outlet.course_protocol`). Results are read in the order in which they came in, and none is
lost ; the reader is told that there are no more when there are no writers and no results left ;
and the first cause with which somebody cancels the outlet is told to the reader once.

A stream of the results of a batch ends with the first failure (`Outlet.streamed`).
-/

namespace Courier

namespace Outlet

variable {α : Type}

/-! ## Courses -/

/-- What a writer or the reader of an outlet does, with the answer of the outlet. -/
inductive Deed (α : Type) where
  /-- A writer writes a result. -/
  | writes (a : α) (answer : Except Failure Unit)
  /-- A writer cancels the outlet. -/
  | aborts (cause : Failure)
  /-- A writer makes another one. -/
  | joins
  /-- A writer leaves. -/
  | parts
  /-- The reader reads the next result. -/
  | reads (answer : Except Failure (Option α))
  /-- The reader cancels the outlet. -/
  | cancels (cause : Failure)
  /-- The reader leaves. -/
  | leaves

/-- What can be done at an outlet. Writers do something while there are some, and the reader until
it leaves. -/
inductive Move : Outlet α → Deed α → Outlet α → Prop where
  | writes {o o' : Outlet α} {a : α} {answer : Except Failure Unit} (hwriters : 0 < o.writers)
      (h : o.write a = some (answer, o')) : Move o (.writes a answer) o'
  | aborts {o : Outlet α} {f : Failure} (hwriters : 0 < o.writers) :
      Move o (.aborts f) (o.cancel f)
  | joins {o : Outlet α} (hwriters : 0 < o.writers) : Move o .joins o.addWriter
  | parts {o : Outlet α} (hwriters : 0 < o.writers) : Move o .parts o.dropWriter
  | reads {o o' : Outlet α} {answer : Except Failure (Option α)} (hreader : o.closed = false)
      (h : o.next = some (answer, o')) : Move o (.reads answer) o'
  | cancels {o : Outlet α} {f : Failure} (hreader : o.closed = false) :
      Move o (.cancels f) (o.cancel f)
  | leaves {o : Outlet α} (hreader : o.closed = false) : Move o .leaves o.close

/-- The courses of a new outlet, with their histories. -/
abbrev Course (capacity : Nat) : List (Deed α) → Outlet α → Prop :=
  Path Move (ofCapacity capacity)

/-! ## Answers -/

section

variable (l : List (Except Failure (Option α)))

/-- The results among some answers. -/
def results : List α :=
  l.filterMap fun
    | .ok (some a) => some a
    | _ => none

/-- The failures among some answers. -/
def failures : List Failure :=
  l.filterMap fun
    | .error f => some f
    | _ => none

theorem results_cons (x : Except Failure (Option α)) :
    results (x :: l) = (match x with | .ok (some a) => [a] | _ => []) ++ results l := by
  rcases x with _ | _ | _ <;> rfl

variable {l} in
theorem results_eq_nil (h : ∀ a, .ok (some a) ∉ l) : results l = [] := by
  refine List.filterMap_eq_nil_iff.2 fun x hx => ?_
  rcases x with _ | _ | a
  · rfl
  · rfl
  · exact absurd hx (h a)

end

/-! ## Histories -/

section

variable (h h' : List (Deed α))

/-- The results that came in. -/
def entered : List α :=
  h.filterMap fun
    | .writes a (.ok ()) => some a
    | _ => none

/-- The answers to the reader. -/
def answers : List (Except Failure (Option α)) :=
  h.filterMap fun
    | .reads answer => some answer
    | _ => none

/-- The results that were read. -/
def taken : List α :=
  h.filterMap fun
    | .reads (.ok (some a)) => some a
    | _ => none

/-- The failures that the reader was told. -/
def told : List Failure :=
  h.filterMap fun
    | .reads (.error f) => some f
    | _ => none

/-- The causes for which the outlet was canceled. -/
def causes : List Failure :=
  h.filterMap fun
    | .aborts cause => some cause
    | .cancels cause => some cause
    | .leaves => some .canceled
    | _ => none

theorem taken_eq : taken h = results (answers h) := by
  unfold taken answers results
  rw [List.filterMap_filterMap]
  congr 1
  funext e
  rcases e with _ | _ | _ | _ | (_ | _ | _) | _ | _ <;> rfl

theorem told_eq : told h = failures (answers h) := by
  unfold told answers failures
  rw [List.filterMap_filterMap]
  congr 1
  funext e
  rcases e with _ | _ | _ | _ | (_ | _) | _ | _ <;> rfl

/-- How many writers came after the first. -/
def joined : Nat :=
  h.countP fun
    | .joins => true
    | _ => false

/-- How many writers have left. -/
def parted : Nat :=
  h.countP fun
    | .parts => true
    | _ => false

@[simp] theorem entered_append : entered (h ++ h') = entered h ++ entered h' :=
  List.filterMap_append

@[simp] theorem answers_append : answers (h ++ h') = answers h ++ answers h' :=
  List.filterMap_append

@[simp] theorem taken_append : taken (h ++ h') = taken h ++ taken h' :=
  List.filterMap_append

@[simp] theorem told_append : told (h ++ h') = told h ++ told h' :=
  List.filterMap_append

@[simp] theorem causes_append : causes (h ++ h') = causes h ++ causes h' :=
  List.filterMap_append

@[simp] theorem joined_append : joined (h ++ h') = joined h + joined h' :=
  List.countP_append

@[simp] theorem parted_append : parted (h ++ h') = parted h + parted h' :=
  List.countP_append

end

/-- The items of a stream whose reader gets some answers : results up to the first failure, which
comes last, or to the end. -/
def streamed : List (Except Failure (Option α)) → List (Except Failure α)
  | .ok (some a) :: answers => .ok a :: streamed answers
  | .error f :: _ => [.error f]
  | .ok none :: _ => []
  | [] => []

/-! ## Answers of an outlet -/

/-- How an outlet answers somebody who writes. -/
inductive Writing (o : Outlet α) (a : α) : Except Failure Unit → Outlet α → Prop where
  | refused (hrefuses : o.refuses) : Writing o a (.error .canceled) o
  | taken (haccepts : o.refuses = false) :
      Writing o a (.ok ()) { o with buffer := o.buffer ++ [a] }

theorem Writing.of_write {o o' : Outlet α} {a : α} {answer : Except Failure Unit}
    (h : o.write a = some (answer, o')) : Writing o a answer o' := by
  unfold write at h
  split at h
  · next hrefuses =>
    cases h
    exact .refused hrefuses
  · next haccepts =>
    split at h
    · cases h
      exact .taken (Bool.eq_false_iff.2 haccepts)
    · cases h

/-- How an outlet answers its reader. -/
inductive Reading (o : Outlet α) : Except Failure (Option α) → Outlet α → Prop where
  | fails (hcanceled : o.canceled) :
      Reading o (.error (o.cause.getD .canceled)) { o with cause := none }
  | gives {a : α} {rest : List α} (hcanceled : o.canceled = false)
      (hbuffer : o.buffer = a :: rest) :
      Reading o (.ok (some a)) { o with buffer := rest }
  | ends (hcanceled : o.canceled = false) (hbuffer : o.buffer = []) (hwriters : o.writers = 0) :
      Reading o (.ok none) o

theorem Reading.of_next {o o' : Outlet α} {answer : Except Failure (Option α)}
    (h : o.next = some (answer, o')) : Reading o answer o' := by
  unfold next at h
  split at h
  · next hcanceled =>
    cases h
    exact .fails hcanceled
  · next hcanceled =>
    have hcanceled := Bool.eq_false_iff.2 hcanceled
    split at h
    · next hbuffer =>
      cases h
      exact .gives hcanceled hbuffer
    · next hbuffer =>
      split at h
      · next hwriters =>
        cases h
        exact .ends hcanceled hbuffer hwriters
      · cases h

/-! ## What the state of an outlet knows of its history -/

/-- What holds of an outlet after a history. -/
structure Tally (h : List (Deed α)) (o : Outlet α) : Prop where
  passage : ∃ lost, entered h = taken h ++ o.buffer ++ lost ∧ (o.closed = false → lost = [])
  writers : o.writers + parted h = joined h + 1
  canceled : o.canceled = true ↔ causes h ≠ []
  closed : o.closed → o.canceled
  cause : o.cause = if told h = [] then (causes h).head? else none
  told : ∀ f later, told h = f :: later →
    (causes h).head? = some f ∧ ∀ g ∈ later, g = .canceled

namespace Tally

variable {h : List (Deed α)} {o o' : Outlet α} {e : Deed α}

theorem start (capacity : Nat) : Tally [] (ofCapacity capacity : Outlet α) where
  passage := ⟨[], rfl, fun _ => rfl⟩
  writers := rfl
  canceled := by simp [ofCapacity, causes]
  closed := by simp [ofCapacity]
  cause := rfl
  told := by simp [Outlet.told]

/-- The reader is told of a failure only once the outlet is canceled. -/
theorem told_of_causes (ht : Tally h o) (hcauses : causes h = []) : Outlet.told h = [] := by
  cases htold : Outlet.told h with
  | nil => rfl
  | cons f later =>
    have hhead := (ht.told f later htold).1
    rw [hcauses] at hhead
    cases hhead

/-- A canceled outlet has a first cause. -/
theorem exists_cause (ht : Tally h o) (hcanceled : o.canceled) :
    ∃ f, (causes h).head? = some f := by
  cases hcauses : causes h with
  | nil => exact absurd hcauses (ht.canceled.1 hcanceled)
  | cons f later => exact ⟨f, rfl⟩

/-- Somebody cancels the outlet. -/
theorem cancel {f : Failure} (ht : Tally h o) (hentered : entered [e] = [])
    (htaken : taken [e] = []) (htold : Outlet.told [e] = []) (hcauses : causes [e] = [f])
    (hjoined : joined [e] = 0) (hparted : parted [e] = 0) :
    Tally (h ++ [e]) (o.cancel f) where
  passage := by simpa [hentered, htaken] using ht.passage
  writers := by simpa [hjoined, hparted] using ht.writers
  canceled := by simp [hcauses]
  closed := by simp
  cause := by
    rw [told_append, htold, List.append_nil, causes_append, hcauses, List.head?_append]
    unfold Outlet.cancel
    by_cases hcanceled : o.canceled
    · obtain ⟨g, hg⟩ := ht.exists_cause hcanceled
      rw [if_pos hcanceled, ht.cause, hg]
      rfl
    · have hnone : causes h = [] := by simpa [ht.canceled] using hcanceled
      rw [if_neg hcanceled, ht.told_of_causes hnone, hnone]
      rfl
  told g later hg := by
    rw [told_append, htold, List.append_nil] at hg
    obtain ⟨hhead, hlater⟩ := ht.told g later hg
    refine ⟨?_, hlater⟩
    rw [causes_append, List.head?_append, hhead]
    rfl

/-- A writer comes or goes. -/
theorem setWriters {writers : Nat} (ht : Tally h o) (hentered : entered [e] = [])
    (htaken : taken [e] = []) (htold : Outlet.told [e] = []) (hcauses : causes [e] = [])
    (hwriters : writers + parted [e] = o.writers + joined [e]) :
    Tally (h ++ [e]) { o with writers } where
  passage := by simpa [hentered, htaken] using ht.passage
  writers := by
    have := ht.writers
    simp only [parted_append, joined_append]
    omega
  canceled := by simpa [hcauses] using ht.canceled
  closed := ht.closed
  cause := by simpa [htold, hcauses] using ht.cause
  told := by simpa [htold, hcauses] using ht.told

/-- A result comes in. -/
theorem enter {a : α} (ht : Tally h o) (haccepts : o.canceled = false ∧ o.closed = false) :
    Tally (h ++ [.writes a (.ok ())]) { o with buffer := o.buffer ++ [a] } where
  passage := by
    obtain ⟨lost, hlost, hnone⟩ := ht.passage
    refine ⟨[], ?_, fun _ => rfl⟩
    rw [entered_append, taken_append, hlost, hnone haccepts.2]
    simp [entered, taken]
  writers := by simpa [joined, parted] using ht.writers
  canceled := by simpa [causes] using ht.canceled
  closed := ht.closed
  cause := by simpa [Outlet.told, causes] using ht.cause
  told := by simpa [Outlet.told, causes] using ht.told

/-- The reader gets a result. -/
theorem take {a : α} {rest : List α} (ht : Tally h o) (hbuffer : o.buffer = a :: rest) :
    Tally (h ++ [.reads (.ok (some a))]) { o with buffer := rest } where
  passage := by
    obtain ⟨lost, hlost, hnone⟩ := ht.passage
    refine ⟨lost, ?_, hnone⟩
    rw [entered_append, taken_append, hlost, hbuffer]
    simp [entered, taken]
  writers := by simpa [joined, parted] using ht.writers
  canceled := by simpa [causes] using ht.canceled
  closed := ht.closed
  cause := by simpa [Outlet.told, causes] using ht.cause
  told := by simpa [Outlet.told, causes] using ht.told

/-- The reader is told of a failure. -/
theorem tell (ht : Tally h o) (hcanceled : o.canceled) :
    Tally (h ++ [.reads (.error (o.cause.getD .canceled))]) { o with cause := none } where
  passage := by simpa [entered, taken] using ht.passage
  writers := by simpa [joined, parted] using ht.writers
  canceled := by simpa [causes] using ht.canceled
  closed := ht.closed
  cause := by simp [Outlet.told]
  told f later htold := by
    have hcauses : causes (h ++ [.reads (.error (o.cause.getD .canceled))]) = causes h := by
      simp [causes]
    have hcause := ht.cause
    rw [told_append] at htold
    rw [hcauses]
    cases hbefore : Outlet.told h with
    | nil =>
      obtain ⟨g, hg⟩ := ht.exists_cause hcanceled
      rw [hbefore, if_pos rfl, hg] at hcause
      rw [hbefore, hcause] at htold
      cases htold
      exact ⟨hg, by simp⟩
    | cons g before =>
      obtain ⟨hhead, hlater⟩ := ht.told g before hbefore
      rw [hbefore, if_neg (by simp)] at hcause
      rw [hbefore, hcause] at htold
      cases htold
      refine ⟨hhead, fun g hg => ?_⟩
      rcases List.mem_append.1 hg with hg | hg
      · exact hlater g hg
      · exact List.mem_singleton.1 hg

theorem move (ht : Tally h o) (hmove : Move o e o') : Tally (h ++ [e]) o' := by
  cases hmove with
  | writes hwriters hwrite =>
    cases Writing.of_write hwrite with
    | refused => exact ht.setWriters rfl rfl rfl rfl rfl
    | taken haccepts => exact ht.enter (by simpa [refuses] using haccepts)
  | aborts hwriters => exact ht.cancel rfl rfl rfl rfl rfl rfl
  | joins hwriters => exact ht.setWriters rfl rfl rfl rfl rfl
  | parts hwriters => exact ht.setWriters rfl rfl rfl rfl (Nat.sub_add_cancel hwriters)
  | reads hreader hnext =>
    cases Reading.of_next hnext with
    | fails hcanceled => exact ht.tell hcanceled
    | gives hcanceled hbuffer => exact ht.take hbuffer
    | ends => exact ht.setWriters rfl rfl rfl rfl rfl
  | cancels hreader => exact ht.cancel rfl rfl rfl rfl rfl rfl
  | leaves hreader =>
    have hcancel : Tally (h ++ [.leaves]) (o.cancel .canceled) := ht.cancel rfl rfl rfl rfl rfl rfl
    obtain ⟨lost, hlost, -⟩ := hcancel.passage
    exact { hcancel with
      passage :=
        ⟨(o.cancel .canceled).buffer ++ lost, by simpa [close] using hlost, by simp [close]⟩
      closed := fun _ => by simp [close] }

/-- Whatever has happened to an outlet, it knows so much of it. -/
theorem of_course {capacity : Nat} (hcourse : Course capacity h o) : Tally h o :=
  hcourse.invariant (Tally.start capacity) fun _ _ _ _ => move

/-- The reader is told the first cause, unless it was told a failure before. -/
theorem next_of_canceled {f : Failure} (ht : Tally h o) (hf : (causes h).head? = some f) :
    o.next =
      some (.error (if Outlet.told h = [] then f else .canceled), { o with cause := none }) := by
  have hcanceled : o.canceled := ht.canceled.2 (by rintro hnone; simp [hnone] at hf)
  have hcause := ht.cause
  rw [hf] at hcause
  unfold next
  rw [if_pos hcanceled, hcause]
  split <;> rfl

theorem write_of_canceled (ht : Tally h o) (hcauses : causes h ≠ []) (a : α) :
    o.write a = some (.error .canceled, o) := by
  have hcanceled : o.canceled := ht.canceled.2 hcauses
  simp [write, refuses, hcanceled]

end Tally

/-! ## Courses from a state on -/

section

variable {o o' : Outlet α} {h : List (Deed α)}

/-- Nothing goes through a canceled outlet. -/
theorem still_of_canceled (hpath : Path Move o h o') (hcanceled : o.canceled) :
    o'.canceled ∧ entered h = [] ∧ taken h = [] := by
  refine hpath.invariant (I := fun h o => o.canceled ∧ entered h = [] ∧ taken h = [])
    ⟨hcanceled, rfl, rfl⟩ ?_
  rintro h e o₁ o₂ ⟨hcanceled, hentered, htaken⟩ hmove
  rw [entered_append, taken_append, hentered, htaken]
  cases hmove with
  | writes hwriters hwrite =>
    cases Writing.of_write hwrite with
    | refused => exact ⟨hcanceled, rfl, rfl⟩
    | taken haccepts => simp [refuses, hcanceled] at haccepts
  | aborts | cancels | leaves => exact ⟨by simp [close], rfl, rfl⟩
  | joins | parts => exact ⟨hcanceled, rfl, rfl⟩
  | reads hreader hnext =>
    cases Reading.of_next hnext with
    | fails => exact ⟨hcanceled, rfl, rfl⟩
    | gives huncanceled | ends huncanceled => simp [hcanceled] at huncanceled

/-- What holds of an outlet after its reader was told of the end, with what has happened since. -/
structure Ended (h : List (Deed α)) (o : Outlet α) : Prop where
  writers : o.writers = 0
  empty : o.closed = false → o.canceled = false ∧ o.buffer = []
  attended : .leaves ∉ h → o.closed = false
  reads : ∀ answer, .reads answer ∈ h → answer = .ok none

/-- Only its reader can change an outlet without writers and results. -/
theorem Ended.move {e : Deed α} (he : Ended h o) (hmove : Move o e o')
    (hcancels : ∀ f, e ≠ .cancels f) : Ended (h ++ [e]) o' := by
  have hnone : ¬0 < o.writers := by simp [he.writers]
  cases hmove with
  | writes hwriters | aborts hwriters | joins hwriters | parts hwriters =>
    exact absurd hwriters hnone
  | reads hreader hnext =>
    obtain ⟨huncanceled, hbuffer⟩ := he.empty hreader
    cases Reading.of_next hnext with
    | fails hcanceled => simp [huncanceled] at hcanceled
    | gives _ hgives => simp [hbuffer] at hgives
    | ends =>
      refine ⟨he.writers, he.empty, by simpa using he.attended, fun answer hanswer => ?_⟩
      rcases List.mem_append.1 hanswer with hanswer | hanswer
      · exact he.reads answer hanswer
      · cases List.mem_singleton.1 hanswer
        rfl
  | cancels => exact absurd rfl (hcancels _)
  | leaves hreader =>
    exact ⟨by simpa [close] using he.writers, by simp [close], by simp, by simpa using he.reads⟩

/-- An outlet stays at its end, unless its reader cancels it. -/
theorem Ended.of_path (hpath : Path Move o h o') (ho : Ended [] o)
    (hcancels : ∀ f, .cancels f ∉ h) : Ended h o' := by
  induction hpath with
  | nil => exact ho
  | snoc hpath hmove ih =>
    refine (ih fun f hf => hcancels f (by simp [hf])).move hmove ?_
    rintro f rfl
    exact hcancels f (by simp)

theorem Ended.next (he : Ended h o) (hleaves : .leaves ∉ h) : o.next = some (.ok none, o) := by
  obtain ⟨huncanceled, hbuffer⟩ := he.empty (he.attended hleaves)
  simp [Outlet.next, huncanceled, hbuffer, he.writers]

end

/-! ## Answers that follow each other -/

/-- Which answers come later than which. A failure is not followed by anything else, and the end is
not followed by a result. -/
def Follows : Except Failure (Option α) → Except Failure (Option α) → Prop
  | .error _, .ok _ => False
  | .ok none, .ok (some _) => False
  | _, _ => True

/-- Once the reader was told of the end, there are no writers and no results to be read. -/
theorem empty_of_ended {capacity : Nat} {h : List (Deed α)} {o : Outlet α}
    (hcourse : Course capacity h o) (hended : .ok none ∈ answers h) :
    o.writers = 0 ∧ (o.canceled = false → o.buffer = []) := by
  induction hcourse with
  | nil => cases hended
  | @snoc h e o o' _ hmove ih =>
    rw [answers_append, List.mem_append] at hended
    rcases hended with hended | hlast
    · obtain ⟨hnone, hempty⟩ := ih hended
      cases hmove with
      | writes hwriters | aborts hwriters | joins hwriters | parts hwriters => omega
      | reads _ hnext =>
        cases Reading.of_next hnext with
        | fails | ends => exact ⟨hnone, hempty⟩
        | gives huncanceled hbuffer =>
          rw [hempty huncanceled] at hbuffer
          cases hbuffer
      | cancels => exact ⟨by simpa using hnone, by simp⟩
      | leaves => exact ⟨by simpa [close] using hnone, by simp [close]⟩
    · cases hmove with
      | reads _ hnext =>
        cases Reading.of_next hnext with
        | ends _ hbuffer hwriters => exact ⟨hwriters, fun _ => hbuffer⟩
        | fails | gives => cases List.mem_singleton.1 hlast
      | writes | aborts | joins | parts | cancels | leaves => cases hlast

/-- Only the reader of a canceled outlet is told of failures. -/
theorem Tally.error_not_mem {h : List (Deed α)} {o : Outlet α} (ht : Tally h o)
    (huncanceled : o.canceled = false) (f : Failure) : .error f ∉ answers h := by
  have htold : Outlet.told h = [] := ht.told_of_causes (by simpa [huncanceled] using ht.canceled)
  rw [told_eq] at htold
  intro hmem
  simpa using List.filterMap_eq_nil_iff.1 htold _ hmem

/-- The answers to the reader follow each other. -/
theorem pairwise_answers {capacity : Nat} {h : List (Deed α)} {o : Outlet α}
    (hcourse : Course capacity h o) : (answers h).Pairwise Follows := by
  induction hcourse with
  | nil => exact .nil
  | @snoc h e o o' hcourse hmove ih =>
    have herror := (Tally.of_course hcourse).error_not_mem
    rw [answers_append, List.pairwise_append]
    refine ⟨ih, by cases e <;> simp [answers], fun x hx y hy => ?_⟩
    cases hmove with
    | reads _ hnext =>
      cases List.mem_singleton.1 hy
      cases Reading.of_next hnext with
      | fails => rcases x with f | _ | a <;> trivial
      | gives huncanceled hbuffer =>
        rcases x with f | _ | a
        · exact absurd hx (herror huncanceled f)
        · rw [(empty_of_ended hcourse hx).2 huncanceled] at hbuffer
          cases hbuffer
        · trivial
      | ends huncanceled =>
        rcases x with f | _ | a
        · exact absurd hx (herror huncanceled f)
        · trivial
        · trivial
    | writes | aborts | joins | parts | cancels | leaves => cases hy

/-- The items of a stream are the results that its reader gets, and then the first failure, unless
the end comes before. -/
theorem streamed_of_pairwise {l : List (Except Failure (Option α))} (hl : l.Pairwise Follows) :
    (.ok none ∈ l → streamed l = (results l).map .ok) ∧
      (.ok none ∉ l → streamed l = (results l).map .ok ++ ((failures l).take 1).map .error) := by
  induction l with
  | nil => simp [streamed, results, failures]
  | cons x l ih =>
    obtain ⟨hx, hrest⟩ := List.pairwise_cons.1 hl
    rcases x with f | _ | a
    · have hnone : .ok none ∉ l := fun hmem => hx _ hmem
      have hresults : results l = [] :=
        results_eq_nil fun a hmem => hx (.ok (some a)) hmem
      exact ⟨by simp [hnone], fun _ => by simp [streamed, results_cons, failures, hresults]⟩
    · have hresults : results l = [] :=
        results_eq_nil fun a hmem => hx (.ok (some a)) hmem
      exact ⟨fun _ => by simp [streamed, results_cons, hresults], by simp⟩
    · simpa [streamed, results_cons, failures] using ih hrest

/-! ## The protocol -/

/-- What the reader and the writers of an outlet can rely on, with a history and the outlet after
it. -/
structure Protocol (h : List (Deed α)) (o : Outlet α) : Prop where
  /-- Results are read in the order in which they came in, without gaps. -/
  order : taken h <+: entered h
  /-- What has come in is on its way while the reader is there. -/
  passage : o.closed = false → entered h = taken h ++ o.buffer
  /-- The reader is told of the end when there are no results and no writers left. -/
  uncanceled : ∀ before answer after, h = before ++ .reads answer :: after → causes before = [] →
    (∃ a, answer = .ok (some a)) ∨
      (answer = .ok none ∧ parted before = joined before + 1 ∧ taken before = entered before)
  /-- The end is the end, unless the reader cancels the outlet. -/
  ended : ∀ before after, h = before ++ .reads (.ok none) :: after → (∀ f, .cancels f ∉ after) →
    (∀ answer, .reads answer ∈ after → answer = .ok none) ∧
      (.leaves ∉ after → o.next = some (.ok none, o))
  /-- The reader of a canceled outlet is told a failure : the first cause at first, and later that
  the outlet is canceled. -/
  canceled : ∀ before answer after f, h = before ++ .reads answer :: after →
    (causes before).head? = some f →
    answer = .error (if told before = [] then f else .canceled)
  /-- It is told no other failures, and the first cause once. -/
  told : ∀ f later, told h = f :: later →
    (causes h).head? = some f ∧ ∀ g ∈ later, g = .canceled
  /-- Writing fails if and only if the outlet is canceled. -/
  writes : ∀ before a answer after, h = before ++ .writes a answer :: after →
    answer = if causes before = [] then .ok () else .error .canceled
  /-- Nothing goes through a canceled outlet. -/
  still : ∀ before after, h = before ++ after → causes before ≠ [] →
    entered h = entered before ∧ taken h = taken before
  /-- A stream has the results that its reader gets as its items, and then the first failure, unless
  its reader is told of the end before. -/
  stream : (.ok none ∈ answers h → streamed (answers h) = (taken h).map .ok) ∧
    (.ok none ∉ answers h →
      streamed (answers h) = (taken h).map .ok ++ ((Outlet.told h).take 1).map .error)
  /-- Nobody waits at a canceled outlet. -/
  prompt : causes h ≠ [] →
    (∀ a, o.write a = some (.error .canceled, o)) ∧ ∃ f o', o.next = some (.error f, o')

/-- The history of an outlet is according to the protocol. -/
theorem Protocol.of_course {capacity : Nat} {h : List (Deed α)} {o : Outlet α}
    (hcourse : Course capacity h o) : Protocol h o := by
  have ht := Tally.of_course hcourse
  constructor
  case order =>
    obtain ⟨lost, hlost, -⟩ := ht.passage
    rw [hlost, List.append_assoc]
    exact List.prefix_append _ _
  case passage =>
    intro hopen
    obtain ⟨lost, hlost, hnone⟩ := ht.passage
    rw [hlost, hnone hopen, List.append_nil]
  case uncanceled =>
    rintro before answer after rfl hcauses
    obtain ⟨o₁, o₂, hbefore, hmove, -⟩ := hcourse.exists_cons
    have ht₁ := Tally.of_course hbefore
    cases hmove with
    | reads hreader hnext =>
      cases Reading.of_next hnext with
      | fails hcanceled => exact absurd hcauses (ht₁.canceled.1 hcanceled)
      | gives => exact .inl ⟨_, rfl⟩
      | ends _ hbuffer hwriters =>
        obtain ⟨lost, hlost, hnone⟩ := ht₁.passage
        have htally := ht₁.writers
        refine .inr ⟨rfl, by omega, ?_⟩
        rw [hlost, hnone hreader, hbuffer, List.append_nil, List.append_nil]
  case ended =>
    rintro before after rfl hcancels
    obtain ⟨o₁, o₂, hbefore, hmove, hafter⟩ := hcourse.exists_cons
    cases hmove with
    | reads hreader hnext =>
      cases Reading.of_next hnext with
      | ends huncanceled hbuffer hwriters =>
        have hended := Ended.of_path hafter
          ⟨hwriters, fun _ => ⟨huncanceled, hbuffer⟩, fun _ => hreader, by simp⟩ hcancels
        exact ⟨hended.reads, hended.next⟩
  case canceled =>
    rintro before answer after f rfl hf
    obtain ⟨o₁, o₂, hbefore, hmove, -⟩ := hcourse.exists_cons
    cases hmove with
    | reads hreader hnext =>
      rw [(Tally.of_course hbefore).next_of_canceled hf] at hnext
      cases hnext
      rfl
  case told => exact ht.told
  case writes =>
    rintro before a answer after rfl
    obtain ⟨o₁, o₂, hbefore, hmove, -⟩ := hcourse.exists_cons
    have ht₁ := Tally.of_course hbefore
    cases hmove with
    | writes hwriters hwrite =>
      cases Writing.of_write hwrite with
      | refused hrefuses =>
        have hcanceled : o₁.canceled := by
          rcases Bool.or_eq_true_iff.1 hrefuses with hcanceled | hclosed
          · exact hcanceled
          · exact ht₁.closed hclosed
        rw [if_neg (ht₁.canceled.1 hcanceled)]
      | taken haccepts =>
        have huncanceled := (Bool.or_eq_false_iff.1 haccepts).1
        rw [if_pos]
        simpa [huncanceled] using ht₁.canceled
  case still =>
    rintro before after rfl hcauses
    obtain ⟨o₁, hbefore, hafter⟩ := hcourse.exists_append
    obtain ⟨-, hentered, htaken⟩ :=
      still_of_canceled hafter ((Tally.of_course hbefore).canceled.2 hcauses)
    simp [hentered, htaken]
  case stream =>
    rw [taken_eq, told_eq]
    exact streamed_of_pairwise (pairwise_answers hcourse)
  case prompt =>
    intro hcauses
    obtain ⟨f, hf⟩ := ht.exists_cause (ht.canceled.2 hcauses)
    exact ⟨ht.write_of_canceled hcauses, _, _, ht.next_of_canceled hf⟩

end Outlet

/-! ## Streams -/

namespace Batch.Bench

variable {σ : Type} (p : Plan σ)

/-- The answers to a reader who reads on and on. -/
def pulls (rounds : Nat) : Nat → Bench σ → List (Except Failure (Option Outcome))
  | 0, _ => []
  | n + 1, b =>
    match b.pull p rounds with
    | (some answer, b) => answer :: pulls rounds n b
    | (none, _) => []

/-- The answer to a reader is the answer of the outlet at some time. -/
theorem next_of_pull {rounds : Nat} {b b' : Bench σ} {answer : Except Failure (Option Outcome)}
    (h : b.pull p rounds = (some answer, b')) :
    ∃ (b₁ : Bench σ) (outlet : Outlet Outcome),
      b₁.state.outlet.next = some (answer, outlet) ∧ b' = b₁.withOutlet outlet := by
  induction rounds generalizing b with
  | zero => cases h
  | succ n ih =>
    unfold pull at h
    split at h
    · next hnext =>
      cases h
      exact ⟨b, _, hnext, rfl⟩
    · simp only at h
      split at h
      · next hnext =>
        cases h
        exact ⟨b.settled p (n + 1), _, hnext, rfl⟩
      · split at h
        · exact ih h
        · cases h

/-- A stream has the items that its reader gets. -/
theorem stream_eq (rounds n : Nat) (b : Bench σ) :
    (b.stream p rounds n).1 = Outlet.streamed (b.pulls p rounds n) := by
  induction n generalizing b with
  | zero => rfl
  | succ n ih =>
    unfold stream pulls
    rcases b.pull p rounds with ⟨_ | f | _ | outcome, b'⟩
    · rfl
    · rfl
    · rfl
    · simp only [Outlet.streamed, ih b']

end Batch.Bench

namespace Outlet

variable {α : Type}

/-- Every course of an outlet is according to the protocol. A stream of the results of a batch has
as its items what its reader gets from the outlet one after the other, up to the first failure,
which is its last item, or to the end. -/
theorem course_protocol {capacity : Nat} {h : List (Deed α)} {o : Outlet α}
    (hcourse : Course capacity h o) :
    Protocol h o ∧
      ∀ {σ : Type} (p : Batch.Plan σ) (rounds : Nat) (b : Batch.Bench σ),
        (∀ answer b', b.pull p rounds = (some answer, b') →
          ∃ (b₁ : Batch.Bench σ) (outlet : Outlet Batch.Outcome),
            b₁.state.outlet.next = some (answer, outlet) ∧ b' = b₁.withOutlet outlet) ∧
        ∀ n, (b.stream p rounds n).1 = streamed (b.pulls p rounds n) :=
  ⟨.of_course hcourse, fun p rounds b =>
    ⟨fun _ _ => Batch.Bench.next_of_pull p, fun n => b.stream_eq p rounds n⟩⟩

/-- Two writers share an outlet with room for one result. One of them cancels it while the other
has a result on its way. -/
theorem course_protocol_aborted :
    ∃ (h : List (Deed Nat)) (o : Outlet Nat), Course 1 h o ∧ Protocol h o ∧
      entered h = [7, 8] ∧ taken h = [7] ∧ told h = [.transport true, .canceled] := by
  have hstart : Course 1 ([] : List (Deed Nat)) _ := .nil
  have hcourse := hstart
    |>.snoc (.joins Nat.one_pos)
    |>.snoc (.writes (a := 7) Nat.two_pos rfl)
    |>.snoc (.reads rfl rfl)
    |>.snoc (.writes (a := 8) Nat.two_pos rfl)
    |>.snoc (.aborts (f := .transport true) Nat.two_pos)
    |>.snoc (.parts Nat.two_pos)
    |>.snoc (.cancels (f := .canceled) rfl)
    |>.snoc (.reads rfl rfl)
    |>.snoc (.writes (a := 9) Nat.one_pos rfl)
    |>.snoc (.reads rfl rfl)
  exact ⟨_, _, hcourse, (course_protocol hcourse).1, rfl, rfl, rfl⟩

end Outlet

end Courier
