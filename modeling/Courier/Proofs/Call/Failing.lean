import Courier.Proofs.Call.Bookkeeping
import Courier.Proofs.Call.Sends
import Courier.Rehearsal.World

/-!
# Which failures observers hear of

A call that fails once its request has been sent is to tell each observer of its failure, and a call
that has sent nothing is to tell nobody (`Client.Covers`). This holds but for two kinds of runs
(`Client.Misses`). A call whose response meant success may still fail : an observer refuses the
response, or the trace cannot read its body. Nobody hears of these failures (`Client.Spurns`). And a
call that is canceled when all observers have agreed to its first sending, but before it, tells all
of them that it failed.

What a failed call tells is the same list in all other runs (`Client.Chronicle.failures_eq`), so
the promise is kept exactly where neither happens (`Client.covers_iff`).
-/

namespace Courier

/-- The failure that an answer is. -/
def Answer.failure? {ε α : Type} : Answer ε α → Option ε
  | .error (.error f) => some f
  | _ => none

/-- The observer that an event tells of a failure, and the failure. -/
def Event.failure? : Event → Option (Nat × Failure)
  | .failed i _ f => some (i, f)
  | _ => none

/-- What observers are told of failures in a timeline. -/
def Timeline.failures (log : Timeline) : List (Nat × Failure) :=
  log.filterMap fun (_, e) => e.failure?

namespace Tale

/-- What observers are told of failures in a tale. -/
def failures (tale : Tale) : List (Nat × Failure) :=
  tale.words.filterMap (·.event.failure?)

variable {tale tale' : Tale} {low high : Nat}

@[simp] theorem failures_append (tale tale' : Tale) :
    failures (tale ++ tale') = tale.failures ++ tale'.failures := by
  simp [failures]

theorem failures_events (tale : Tale) : tale.events.failures = tale.failures := by
  simp only [Timeline.failures, failures, words, events, List.filterMap_map]
  rfl

theorem sends_events_eq_nil (tale : Tale) : tale.events.sends = [] ↔ tale.sendings = [] := by
  rw [← List.length_eq_zero_iff, length_sends_events, List.length_eq_zero_iff]

/-- No observer is told of a failure before the end of a call. -/
theorem InStages.failures_eq_nil (h : tale.InStages low high) (hhigh : high < 5) :
    tale.failures = [] := by
  refine List.filterMap_eq_nil_iff.2 fun word hword => ?_
  have hbounds := h.bounds word hword
  cases word with
  | failed =>
    simp only [Word.stage] at hbounds
    omega
  | _ => rfl

end Tale

namespace Polled

variable {ε : Type} {word : Nat → Answer ε Unit → Word} {number i : Nat} {words : List Word}

theorem cons_range' {k : Nat} (hi : i < k) :
    word i (.ok ()) :: (List.range' (i + 1) (k - (i + 1))).map (word · (.ok ())) =
      (List.range' i (k - i)).map (word · (.ok ())) := by
  rw [show k - i = k - (i + 1) + 1 by omega, List.range'_succ, List.map_cons]

/-- All observers were asked if none of them stopped the call. -/
theorem eq_of_ok (h : Polled word number i words (.ok ())) (hi : i ≤ number) :
    words = (List.range' i (number - i)).map (word · (.ok ())) := by
  generalize hanswer : (.ok () : Answer ε Unit) = answer at h
  induction h with
  | all => simp
  | stops => cases hanswer
  | agrees hlt _ ih =>
    subst hanswer
    rw [ih hlt rfl, cons_range' hlt]

/-- The observer that stopped the call was asked last. -/
theorem eq_of_error {stop : Stop ε} (h : Polled word number i words (.error stop)) :
    ∃ k, i ≤ k ∧ k < number ∧
      words = (List.range' i (k - i)).map (word · (.ok ())) ++ [word k (.error stop)] := by
  generalize hanswer : (.error stop : Answer ε Unit) = answer at h
  induction h with
  | all => cases hanswer
  | @stops i _ hlt =>
    cases hanswer
    exact ⟨i, Nat.le_refl i, hlt, by simp⟩
  | agrees hlt _ ih =>
    obtain ⟨k, hk, hnumber, hwords⟩ := ih hanswer
    exact ⟨k, Nat.le_of_succ_le hk, hnumber, by rw [hwords, ← cons_range' hk, List.cons_append]⟩

theorem exists_of_mem {answer : Answer ε Unit} (h : Polled word number i words answer) :
    ∀ w ∈ words, ∃ i answer, w = word i answer := by
  induction h with
  | all => simp
  | stops =>
    intro w hw
    exact ⟨_, _, List.mem_singleton.1 hw⟩
  | agrees _ _ ih =>
    intro w hw
    rcases List.mem_cons.1 hw with rfl | hw
    · exact ⟨_, _, rfl⟩
    · exact ih w hw

end Polled

namespace Client

variable {σ : Type} (client : Client σ)

/-- All observers have agreed to the first sending. -/
def Agreed (tale : Tale) : Prop :=
  ∀ i < client.observers.length, ∃ request, .willSend i request (.ok ()) ∈ tale.words

/-- All observers hear of a failure, in their order. -/
def toldAll (f : Failure) : List (Nat × Failure) :=
  (List.range client.observers.length).map (·, f)

/-- A call fails with a response that meant success : an observer refuses the response, or the
last sending gave one and the call fails as if it had not. -/
def Spurns (tale : Tale) (f : Failure) : Prop :=
  (∃ i request response, .didReceive i request response (.fail f) ∈ tale.words) ∨
    f = .transport false ∧
      ∃ t d response, tale.sendings.getLast? = some (t, d) ∧ d.result = .ok response

/-- The promise that observers are given. A call that fails tells each of them once, with its
failure, if its request was sent ; a call that sends nothing tells nobody. -/
structure Covers (log : Timeline) (result : Answer Failure Response) : Prop where
  told : log.sends ≠ [] → ∀ f, result = .fail f → log.failures = client.toldAll f
  untold : log.sends = [] → log.failures = []

/-- There are observers, and they do not hear of a failure with a response that meant success, or
they hear of a cancellation before anything was sent. -/
structure Misses (cancel : Option Instant) (tale : Tale) (result : Answer Failure Response) :
    Prop where
  observed : client.observers ≠ []
  missed : (∃ f, result = .fail f ∧ Spurns tale f) ∨
    cancel.isSome ∧ tale.sendings = [] ∧ client.Agreed tale

variable {client} {id : Nat} {request : Request} {start : Instant} {cancel : Option Instant}
  {c : Call} {n : Nat} {words : List Word} {tale last more : Tale} {f : Failure}

theorem toldAll_eq_nil : client.toldAll f = [] ↔ client.observers = [] := by
  simp [toldAll]

theorem covers_events {result : Answer Failure Response} :
    client.Covers tale.events result ↔
      (tale.sendings ≠ [] → ∀ f, result = .fail f → tale.failures = client.toldAll f) ∧
        (tale.sendings = [] → tale.failures = []) := by
  rw [← Tale.failures_events, ne_eq, ← Tale.sends_events_eq_nil]
  exact ⟨fun h => ⟨h.told, h.untold⟩, fun h => ⟨h.1, h.2⟩⟩

/-! ## What the pieces of a chronicle tell -/

theorem Wills.agreed (h : client.Wills c words (.ok ())) (t : Instant) :
    client.Agreed (tale ++ spoken t words) := by
  have hwords := Polled.eq_of_ok h (Nat.zero_le _)
  rintro i hi
  refine ⟨c.request, ?_⟩
  rw [hwords]
  simp [hi]

theorem Wills.not_agreed {stop : Stop Failure} (h : client.Wills c words (.error stop))
    (htale : tale.InStages 0 2) (t : Instant) : ¬client.Agreed (tale ++ spoken t words) := by
  obtain ⟨k, -, hk, hwords⟩ := Polled.eq_of_error h
  rintro hagreed
  obtain ⟨request, hmem⟩ := hagreed k hk
  rw [Tale.words_append, List.mem_append] at hmem
  rcases hmem with hmem | hmem
  · have hstage := (htale.bounds _ hmem).2
    simp [Word.stage] at hstage
  · rw [Tale.words_spoken, hwords, List.mem_append, List.mem_singleton] at hmem
    rcases hmem with hmem | hmem
    · obtain ⟨i, hi, heq⟩ := List.mem_map.1 hmem
      have hlt := (List.mem_range'_1.1 hi).2
      have hsame : i = k := (Word.willSend.inj heq).1
      omega
    · cases hmem

theorem Fails.failures_eq (h : client.Fails c f words (.ok ())) (t : Instant) :
    (spoken t words).failures = client.toldAll f := by
  have hwords := Polled.eq_of_ok h (Nat.zero_le _)
  rw [hwords, Tale.failures, Tale.words_spoken, List.filterMap_map, toldAll, List.range_eq_range']
  exact congrFun List.filterMap_eq_map _

/-- An observer that crashes when it is told of a failure is told of it. -/
theorem Fails.failures_ne_nil {stop : Stop Empty} (h : client.Fails c f words (.error stop))
    (t : Instant) : (spoken t words).failures ≠ [] ∧ client.observers ≠ [] := by
  obtain ⟨k, -, hk, hwords⟩ := Polled.eq_of_error h
  refine ⟨?_, List.ne_nil_of_length_pos (Nat.lt_of_le_of_lt (Nat.zero_le k) hk)⟩
  rw [hwords]
  simp [Tale.failures, Event.failure?, Word.event]

theorem Receives.failures_eq {response : Response} {answer : Answer Failure Unit}
    (h : client.Receives c response words answer) (t : Instant) :
    (spoken t words).failures = [] := by
  refine List.filterMap_eq_nil_iff.2 fun word hword => ?_
  obtain ⟨i, answer, rfl⟩ := Polled.exists_of_mem h word (by simpa using hword)
  rfl

/-- A call that has its response tells of no failure. If it fails all the same, it spurns the
response. -/
theorem Concludes.failures_eq {response : Response} {answer : Answer Failure Response}
    (h : client.Concludes c response words answer) (t : Instant) :
    (spoken t words).failures = [] := by
  cases h with
  | unread => rfl
  | told _ hwords => exact Receives.failures_eq hwords t

theorem Concludes.spurns {response : Response} {answer : Answer Failure Response}
    (h : client.Concludes c response words answer) (t : Instant)
    (hlast : ∃ t d response, tale.sendings.getLast? = some (t, d) ∧ d.result = .ok response)
    (hf : answer = .fail f) : Spurns (tale ++ spoken t words) f := by
  have hsendings : (tale ++ spoken t words).sendings = tale.sendings := by
    rw [Tale.sendings_append, (h.inStages t).sendings_eq_nil (.inr (by decide)), List.append_nil]
  cases h with
  | unread =>
    cases hf
    exact .inr ⟨rfl, by rwa [hsendings]⟩
  | @told shown words answer _ hwords =>
    rcases answer with stop | ⟨⟩
    · cases hf
      obtain ⟨k, -, -, hwords⟩ := Polled.eq_of_error hwords
      exact .inl ⟨k, c.request, shown, by simp [hwords, Answer.fail]⟩
    · cases hf

/-- A response that the transport gave does not fail as if there were none. -/
theorem verdict_heard_ne {response : Response} {refusal : Option Limiter.Refusal} {timeout : Bool} :
    verdict c (.heard response refusal) ≠ .fail (.transport timeout) := by
  unfold verdict
  split
  · simp_all
  · simp_all
  · simp [Call.refused, Answer.fail]
  · split
    · split <;> simp [Call.refused, Answer.fail]
    · simp [Answer.fail]

/-- Where a call fails because the transport gave no response, none came of the last sending. -/
theorem Ends.sendings_of_fault (h : client.Ends c cancel n last (.fail (.transport false))) :
    ∃ t d, last.sendings = [(t, d)] ∧ d.result = .error false := by
  generalize hanswer : (.fail (.transport false) : Answer Failure Response) = answer at h
  cases h with
  | canceled | cut => cases hanswer
  | @decided _ reply hreplies =>
    obtain ⟨t, d, hsendings, hreply⟩ := hreplies.sendings_eq
    match reply with
    | .fault _ =>
      cases hanswer
      exact ⟨t, d, hsendings, hreply⟩
    | .heard _ _ => exact absurd hanswer.symm verdict_heard_ne
    | .crashed _ => cases hanswer

/-- A call that ends before it has sent anything is canceled. -/
theorem Ends.canceled_of_unsent {answer : Answer Failure Response}
    (h : client.Ends c cancel n last answer) (hsendings : (tale ++ last ++ more).sendings = []) :
    cancel.isSome ∧ answer = .fail .canceled := by
  have hlast : last.sendings = [] := by
    simp only [Tale.sendings_append, List.append_eq_nil_iff] at hsendings
    exact hsendings.1.2
  cases h with
  | canceled hcancel => exact ⟨hcancel, rfl⟩
  | cut => cases hlast
  | decided hreplies =>
    obtain ⟨t, d, hsent, -⟩ := hreplies.sendings_eq
    cases hsent.symm.trans hlast

/-! ## The promise -/

/-- A call that ends before all observers have agreed tells them of nothing. -/
theorem covers_iff_of_inStages {result : Answer Failure Response} {high : Nat}
    (h : tale.InStages 0 high) (hhigh : high < 4)
    (hagreed : client.observers ≠ [] → ¬client.Agreed tale) :
    client.Covers tale.events result ↔ ¬client.Misses cancel tale result := by
  have hsendings : tale.sendings = [] := h.sendings_eq_nil (.inl hhigh)
  have hfailures : tale.failures = [] := h.failures_eq_nil (Nat.lt_succ_of_lt hhigh)
  refine iff_of_true (covers_events.2 ⟨fun hsent => absurd hsendings hsent, fun _ => hfailures⟩) ?_
  rintro ⟨hobserved, ⟨f, -, ⟨i, request, response, hmem⟩ | ⟨-, response, hlast⟩⟩ | ⟨-, -, hall⟩⟩
  · have hstage := (h.bounds _ hmem).2
    simp only [Word.stage] at hstage
    omega
  · simp [hsendings] at hlast
  · exact hagreed hobserved hall

/-- Nobody has agreed before anybody is asked. -/
theorem not_agreed (h : tale.InStages 0 2) (hobserved : client.observers ≠ []) :
    ¬client.Agreed tale := by
  intro hagreed
  obtain ⟨request, hmem⟩ := hagreed 0 (List.length_pos_iff.2 hobserved)
  exact absurd (h.bounds _ hmem).2 (by simp [Word.stage])

/-- A call that all observers agreed to keeps the promise if it tells each of its failure, unless
it has sent nothing. -/
theorem covers_iff_of_told {result : Answer Failure Response} (hagreed : client.Agreed tale)
    (htold : ∀ f, result = .fail f → tale.failures = client.toldAll f ∧ ¬Spurns tale f)
    (hunsent : tale.sendings = [] →
      cancel.isSome ∧ (tale.failures = [] ↔ client.observers = [])) :
    client.Covers tale.events result ↔ ¬client.Misses cancel tale result := by
  constructor
  · rintro hcovers ⟨hobserved, ⟨f, hf, hspurns⟩ | ⟨-, hsendings, -⟩⟩
    · exact (htold f hf).2 hspurns
    · exact hobserved ((hunsent hsendings).2.1 ((covers_events.1 hcovers).2 hsendings))
  · intro hmisses
    refine covers_events.2 ⟨fun _ f hf => (htold f hf).1, fun hsendings => ?_⟩
    obtain ⟨hcancel, htold⟩ := hunsent hsendings
    exact htold.2 (Classical.byContradiction fun hobserved =>
      hmisses ⟨hobserved, .inr ⟨hcancel, hsendings, hagreed⟩⟩)

theorem Agreed.append (h : client.Agreed tale) (more : Tale) : client.Agreed (tale ++ more) := by
  intro i hi
  obtain ⟨request, hmem⟩ := h i hi
  exact ⟨request, by simp [hmem]⟩

theorem Underway.agreed (h : client.Underway c id request start n tale) : client.Agreed tale := by
  obtain ⟨⟨-, hwills⟩, -⟩ := h
  exact (Wills.agreed hwills _).append _

theorem Fails.not_spurns {answer : Answer Empty Unit} {t : Instant}
    (hunderway : client.Underway c id request start n tale)
    (hends : client.Ends c cancel n last (.fail f)) (hfails : client.Fails c f words answer) :
    ¬Spurns (tale ++ last ++ spoken t words) f := by
  have hsendings : (spoken t words).sendings = [] :=
    (Fails.inStages hfails t).sendings_eq_nil (.inr (by decide))
  rintro (⟨i, request, response, hmem⟩ | ⟨rfl, t', hlast⟩)
  · rw [Tale.words_append, Tale.words_spoken, List.mem_append] at hmem
    rcases hmem with hmem | hmem
    · exact absurd ((hunderway.inStages_ends hends).bounds _ hmem).2 (by simp [Word.stage])
    · obtain ⟨_, _, ⟨⟩⟩ := Polled.exists_of_mem hfails _ hmem
  · obtain ⟨t', d, hsent, hd⟩ := hends.sendings_of_fault
    obtain ⟨d', response', hlast, hd'⟩ := hlast
    simp [hsendings, hsent] at hlast
    simp [← hlast.2, hd] at hd'

/-- What observers are told of a failure in sending is all that they are told of failures. -/
theorem Underway.failures_eq {answer : Answer Failure Response}
    (h : client.Underway c id request start n tale) (hends : client.Ends c cancel n last answer) :
    (tale ++ last ++ more).failures = more.failures := by
  rw [Tale.failures_append, (h.inStages_ends hends).failures_eq_nil (by decide), List.nil_append]

/-- A call that has its response and fails all the same tells nobody. -/
theorem Concludes.covers_iff {response : Response} {result : Answer Failure Response} {t : Instant}
    (hunderway : client.Underway c id request start n tale)
    (hends : client.Ends c cancel n last (.ok response))
    (h : client.Concludes c response words result) :
    client.Covers (tale ++ last ++ spoken t words).events result ↔
      ¬client.Misses cancel (tale ++ last ++ spoken t words) result := by
  have hagreed := (hunderway.agreed.append last).append (spoken t words)
  have hsent : (tale ++ last ++ spoken t words).sendings ≠ [] := fun hsendings =>
    nomatch (hends.canceled_of_unsent hsendings).2
  have hfailures : (tale ++ last ++ spoken t words).failures = [] := by
    rw [hunderway.failures_eq hends, h.failures_eq]
  by_cases hfail : ∃ f, result = .fail f
  · obtain ⟨f, rfl⟩ := hfail
    have hspurns : Spurns (tale ++ last ++ spoken t words) f := by
      obtain ⟨t', d, hlast, hd⟩ := hends.sendings_of_ok
      exact h.spurns t ⟨t', d, response, by simp [hlast], hd⟩ rfl
    constructor
    · rintro hcovers ⟨hobserved, -⟩
      have htold := (covers_events.1 hcovers).1 hsent f rfl
      exact hobserved (toldAll_eq_nil.1 (htold.symm.trans hfailures))
    · intro hmisses
      refine covers_events.2 ⟨fun _ f' hf' => ?_, fun _ => hfailures⟩
      rw [hfailures, toldAll_eq_nil.2]
      exact Classical.byContradiction fun hobserved => hmisses ⟨hobserved, .inl ⟨f, rfl, hspurns⟩⟩
  · exact covers_iff_of_told hagreed (fun f hf => absurd ⟨f, hf⟩ hfail) fun hsendings =>
      absurd hsendings hsent

/-- A call keeps the promise unless it spurns a response or is canceled before it sends. -/
theorem Chronicle.covers_iff {result : Answer Failure Response}
    (h : client.Chronicle id request start cancel tale result) :
    client.Covers tale.events result ↔ ¬client.Misses cancel tale result := by
  have hearly {tale : Tale} (h : tale.InStages 0 2) :
      client.Covers tale.events result ↔ ¬client.Misses cancel tale result :=
    covers_iff_of_inStages h (by decide) (not_agreed h)
  cases h with
  | unprepared hprepares =>
    exact hearly ⟨hprepares.inStages.ordered, fun word hword =>
      ⟨Nat.zero_le _, Nat.le_trans (hprepares.inStages.bounds word hword).2 (by decide)⟩⟩
  | barred hprepares hpaces => exact hearly (hprepares.inStages_paces hpaces)
  | canceled hadmitted => exact hearly hadmitted.inStages
  | vetoed hadmitted hwills =>
    exact covers_iff_of_inStages (hadmitted.inStages_wills hwills) (by decide) fun _ =>
      Wills.not_agreed hwills hadmitted.inStages _
  | crashed hunderway hends =>
    refine covers_iff_of_told (hunderway.agreed.append _) nofun fun hsendings => ?_
    rw [← List.append_nil (_ ++ _)] at hsendings
    cases (hends.canceled_of_unsent hsendings).2
  | failed hunderway hends hfails =>
    refine covers_iff_of_told ((hunderway.agreed.append _).append _) ?_ fun hsendings => ?_ <;>
      rw [hunderway.failures_eq hends, hfails.failures_eq]
    · rintro f ⟨⟩
      exact ⟨rfl, hfails.not_spurns hunderway hends⟩
    · exact ⟨(hends.canceled_of_unsent hsendings).1, toldAll_eq_nil⟩
  | failedTwice hunderway hends hfails =>
    obtain ⟨htold, hobserved⟩ := hfails.failures_ne_nil _
    refine covers_iff_of_told ((hunderway.agreed.append _).append _) nofun fun hsendings => ?_
    rw [hunderway.failures_eq hends]
    exact ⟨(hends.canceled_of_unsent hsendings).1, iff_of_false htold hobserved⟩
  | concluded hunderway hends hconcludes => exact hconcludes.covers_iff hunderway hends

variable (client) (id) (request) (cancel)

/-- A run tells each observer of its failure once, if its request was sent, and nobody if it was
not, exactly where it neither spurns a response nor is canceled before it sends. -/
theorem run_covers_iff (s : Scene σ) :
    let ran := client.run id request cancel s
    ∃ tale result, ran.1 = some result ∧ s.Recounts client tale ran.2 ∧
      (client.Covers tale.events result ↔ ¬client.Misses cancel tale result) := by
  obtain ⟨tale, result, hresult, hrecounts, hchronicle⟩ :=
    client.exists_chronicle id request cancel s
  exact ⟨tale, result, hresult, hrecounts, hchronicle.covers_iff⟩

/-- A client with an observer that may refuse responses, of which each means success. -/
def guarded (reject : Option String) : Client Rehearsal.World where
  base := none
  observers := [Rehearsal.Guard.observer { reject }]
  transport := fun _ _ w => (⟨0, .ok ⟨200, none, {}, none, none⟩⟩, w)
  retryStatuses := []
  backoff := 0
  headers := {}
  contentType := ""
  tracing := {}

/-- A call that is canceled before it sends tells of that, and one whose response an observer
refuses does not. -/
theorem guarded_not_covers :
    let s : Scene Rehearsal.World := { clock := ⟨0, 0⟩, world := {} }
    let request : Request := { target := "mem:a" }
    let early := (guarded none).run 0 request (some 0) s
    let refused := (guarded (some "no")).run 0 request none s
    (early.1.bind Answer.failure? = some .canceled ∧
      ¬(guarded none).Covers early.2.log (.fail .canceled)) ∧
    (refused.1.bind Answer.failure? = some (.observer "no") ∧
      ¬(guarded (some "no")).Covers refused.2.log (.fail (.observer "no"))) := by
  intro s request early refused
  refine ⟨⟨by decide +kernel, fun h => ?_⟩, ⟨by decide +kernel, fun h => ?_⟩⟩
  · exact absurd (h.untold (by decide +kernel)) (by decide +kernel)
  · exact absurd (h.told (by decide +kernel) _ rfl) (by decide +kernel)

end Client

end Courier
