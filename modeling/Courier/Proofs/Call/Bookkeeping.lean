import Courier.Proofs.Call.Chronicle
import Courier.Proofs.Call.Sends

/-!
# The bookkeeping of a call

Whatever a call does, its words come in the order of its stages (`Word.Precedes`). The authorizer
and the limiter's `next` are asked at most once, and each observer is told at most once before the
first sending and at most once at the end, in the order of the observers. Only sendings, and the
responses that the limiter is shown, may come again. The limiter is shown every response that the
call receives, once and in their order. All of this is read off the chronicle of the call, in which
every run goes (`Client.run_chronicle`).
-/

namespace Courier

/-- The stage of a call in which a word is said. -/
def Word.stage : Word → Nat
  | .authorizes .. => 0
  | .asksReport .. => 1
  | .asksNext .. => 2
  | .willSend .. => 3
  | .sends .. | .shows .. => 4
  | .didReceive .. | .failed .. => 5

/-- The place of a word in its stage : observers are told in turn. -/
def Word.turn : Word → Nat
  | .willSend i .. | .didReceive i .. | .failed i .. => i
  | _ => 0

/-- A word may come before another : it belongs to an earlier stage or, but for sendings and what is
shown of them, to an earlier turn. -/
def Word.Precedes (a b : Word) : Prop :=
  a.stage < b.stage ∨ a.stage = b.stage ∧ (a.stage = 4 ∨ a.turn < b.turn)

/-- The response that comes of a word. -/
def Word.response? : Word → Option Response
  | .sends _ d => d.result.toOption
  | _ => none

/-- The response that a word shows the limiter. -/
def Word.shown? : Word → Option Response
  | .shows _ response _ => some response
  | _ => none

/-- What becomes of the request that a word sends. -/
def Word.delivery? : Word → Option Delivery
  | .sends _ d => some d
  | _ => none

/-- The words of a tale. -/
def Tale.words (tale : Tale) : List Word :=
  tale.map Prod.snd

/-- The responses that come in a tale. -/
def Tale.responses (tale : Tale) : List Response :=
  tale.words.filterMap Word.response?

/-- The responses that the limiter is shown in a tale. -/
def Tale.shown (tale : Tale) : List Response :=
  tale.words.filterMap Word.shown?

/-- A reply tells what becomes of a request. -/
def Reply.Of (d : Delivery) : Reply → Prop
  | .fault timeout => d.result = .error timeout
  | .heard response _ => d.result = .ok response
  | .crashed _ => ∃ response, d.result = .ok response

/-- The sendings of a tale, with their times and what becomes of the requests. -/
def Tale.sendings (tale : Tale) : List (Instant × Delivery) :=
  tale.filterMap fun (t, word) => word.delivery?.map (t, ·)

/-- Lines of a trace send nothing. -/
theorem Timeline.sends_untraced (log : Timeline) : log.untraced.sends = log.sends := by
  induction log with
  | nil => rfl
  | cons te log ih =>
    obtain ⟨t, e⟩ := te
    cases e <;> simp_all [untraced, sends, Event.isTrace, Event.sent?]

namespace Tale

@[simp] theorem words_nil : words [] = [] :=
  rfl

@[simp] theorem words_append (tale tale' : Tale) :
    words (tale ++ tale') = tale.words ++ tale'.words :=
  List.map_append

@[simp] theorem words_spoken (t : Instant) (said : List Word) : words (spoken t said) = said := by
  simp [words, spoken, Function.comp_def]

@[simp] theorem responses_append (tale tale' : Tale) :
    responses (tale ++ tale') = tale.responses ++ tale'.responses := by
  simp [responses]

@[simp] theorem shown_append (tale tale' : Tale) :
    shown (tale ++ tale') = tale.shown ++ tale'.shown := by
  simp [shown]

@[simp] theorem sendings_append (tale tale' : Tale) :
    sendings (tale ++ tale') = tale.sendings ++ tale'.sendings :=
  List.filterMap_append

/-- The sendings of a tale are those that its events show, with their times. -/
theorem times_sends_events (tale : Tale) :
    tale.events.sends.map Prod.fst = tale.sendings.map Prod.fst := by
  induction tale with
  | nil => rfl
  | cons said tale ih =>
    have hsaid : (events [said]).sends.map Prod.fst = (sendings [said]).map Prod.fst := by
      obtain ⟨t, word⟩ := said
      cases word <;> rfl
    rw [← List.singleton_append, events_append, Timeline.sends_append, sendings_append,
      List.map_append, List.map_append, hsaid, ih]

theorem length_sends_events (tale : Tale) : tale.events.sends.length = tale.sendings.length := by
  simpa using congrArg List.length tale.times_sends_events

/-- What is sent between two scenes are the sendings of the tale of it, with their times. -/
theorem times_sends {σ : Type} {client : Client σ} {s s' : Scene σ} {tale : Tale}
    (h : s.Recounts client tale s') :
    s'.log.sends.map Prod.fst = s.log.sends.map Prod.fst ++ tale.sendings.map Prod.fst := by
  rw [← s'.log.sends_untraced, h.log, Timeline.sends_append, List.map_append,
    s.log.sends_untraced, times_sends_events]

theorem length_sends {σ : Type} {client : Client σ} {s s' : Scene σ} {tale : Tale}
    (h : s.Recounts client tale s') :
    s'.log.sends.length = s.log.sends.length + tale.sendings.length := by
  simpa using congrArg List.length (times_sends h)

/-- Words in their order, from one stage to another. -/
structure InStages (low high : Nat) (tale : Tale) : Prop where
  ordered : tale.words.Pairwise Word.Precedes
  bounds : ∀ word ∈ tale.words, low ≤ word.stage ∧ word.stage ≤ high

variable {tale tale' : Tale} {low mid mid' high : Nat}

theorem InStages.append (h : tale.InStages low mid) (h' : tale'.InStages mid' high)
    (hmid : mid < mid') (hlow : low ≤ mid') (hhigh : mid ≤ high) :
    (tale ++ tale').InStages low high := by
  refine ⟨?_, fun word hword => ?_⟩
  · rw [words_append, List.pairwise_append]
    refine ⟨h.ordered, h'.ordered, fun a ha b hb => .inl ?_⟩
    exact Nat.lt_of_le_of_lt (h.bounds a ha).2 (Nat.lt_of_lt_of_le hmid (h'.bounds b hb).1)
  · rw [words_append, List.mem_append] at hword
    rcases hword with hword | hword
    · exact ⟨(h.bounds word hword).1, Nat.le_trans (h.bounds word hword).2 hhigh⟩
    · exact ⟨Nat.le_trans hlow (h'.bounds word hword).1, (h'.bounds word hword).2⟩

/-- Sendings, and what is shown of them, are in no order. -/
theorem inStages_four (h : ∀ word ∈ tale.words, word.stage = 4) : tale.InStages 4 4 := by
  refine ⟨List.pairwise_iff_forall_sublist.2 fun {a b} hab => ?_, fun word hword => by
    simp [h word hword]⟩
  have ha : a.stage = 4 := h a (hab.subset (by simp))
  have hb : b.stage = 4 := h b (hab.subset (by simp))
  exact .inr ⟨ha.trans hb.symm, .inl ha⟩

/-- Nothing is received, and nothing is shown, before the stage of sending and after it. -/
theorem InStages.responses_eq (h : tale.InStages low high) (hstages : high < 4 ∨ 4 < low) :
    tale.responses = [] ∧ tale.shown = [] := by
  have hnone (word : Word) (hword : word ∈ tale.words) :
      word.response? = none ∧ word.shown? = none := by
    have hbounds := h.bounds word hword
    cases word <;> simp only [Word.stage] at hbounds <;> first | exact ⟨rfl, rfl⟩ | omega
  exact ⟨List.filterMap_eq_nil_iff.2 fun word hword => (hnone word hword).1,
    List.filterMap_eq_nil_iff.2 fun word hword => (hnone word hword).2⟩

/-- Nothing is sent before the stage of sending and after it. -/
theorem InStages.sendings_eq_nil (h : tale.InStages low high) (hstages : high < 4 ∨ 4 < low) :
    tale.sendings = [] := by
  refine List.filterMap_eq_nil_iff.2 fun said hsaid => ?_
  obtain ⟨t, word⟩ := said
  have hbounds := h.bounds word (List.mem_map_of_mem hsaid)
  cases word with
  | sends =>
    simp only [Word.stage] at hbounds
    omega
  | _ => rfl

end Tale

/-- Observers are told in their order. -/
theorem Polled.inStages {ε : Type} {word : Nat → Answer ε Unit → Word} {number i stage : Nat}
    {words : List Word} {answer : Answer ε Unit} (h : Polled word number i words answer)
    (hword : ∀ i answer, (word i answer).stage = stage ∧ (word i answer).turn = i) (t : Instant) :
    (spoken t words).InStages stage stage := by
  suffices hsuff : words.Pairwise Word.Precedes ∧ ∀ w ∈ words, w.stage = stage ∧ i ≤ w.turn by
    refine ⟨by simpa using hsuff.1, fun w hw => ?_⟩
    rw [Tale.words_spoken] at hw
    simp [(hsuff.2 w hw).1]
  induction h with
  | all => simp
  | stops => simp [hword]
  | @agrees i words answer hi hrest ih =>
    obtain ⟨hordered, hbounds⟩ := ih
    refine ⟨List.pairwise_cons.2 ⟨fun w hw => .inr ⟨?_, .inr ?_⟩, hordered⟩, fun w hw => ?_⟩
    · rw [(hword i _).1, (hbounds w hw).1]
    · rw [(hword i _).2]
      exact (hbounds w hw).2
    · rcases List.mem_cons.1 hw with rfl | hw
      · exact ⟨(hword i _).1, Nat.le_of_eq (hword i _).2.symm⟩
      · exact ⟨(hbounds w hw).1, Nat.le_of_succ_le (hbounds w hw).2⟩

namespace Client

variable {σ : Type} {client : Client σ} {id : Nat} {request : Request} {start : Instant}
  {cancel : Option Instant} {c : Call} {n : Nat} {words : List Word} {tale last : Tale}

/-! ## The order of the stages -/

theorem Prepares.inStages {answer : Answer Failure Call}
    (h : client.Prepares id request start words answer) : (spoken start words).InStages 0 0 := by
  refine ⟨?_, ?_⟩ <;> cases h <;> simp [Word.stage]

theorem Paces.inStages {answer : Answer Failure (Option Instant)} (h : client.Paces c words answer)
    (t : Instant) : (spoken t words).InStages 1 2 := by
  refine ⟨?_, ?_⟩ <;> cases h <;> simp [Word.stage, Word.Precedes]

theorem Wills.inStages {answer : Answer Failure Unit} (h : client.Wills c words answer)
    (t : Instant) : (spoken t words).InStages 3 3 :=
  Polled.inStages h (fun _ _ => ⟨rfl, rfl⟩) t

theorem Fails.inStages {f : Failure} {answer : Answer Empty Unit}
    (h : client.Fails c f words answer) (t : Instant) : (spoken t words).InStages 5 5 :=
  Polled.inStages h (fun _ _ => ⟨rfl, rfl⟩) t

theorem Concludes.inStages {response : Response} {answer : Answer Failure Response}
    (h : client.Concludes c response words answer) (t : Instant) :
    (spoken t words).InStages 5 5 := by
  cases h with
  | unread => exact ⟨by simp, by simp⟩
  | told _ hwords => exact Polled.inStages hwords (fun _ _ => ⟨rfl, rfl⟩) t

theorem Prepares.inStages_paces {words' : List Word} {answer : Answer Failure (Option Instant)}
    (h : client.Prepares id request start words (.ok c)) (hpaces : client.Paces c words' answer) :
    (spoken start (words ++ words')).InStages 0 2 := by
  rw [spoken_append]
  exact h.inStages.append (hpaces.inStages _) (by decide) (by decide) (by decide)

theorem Admitted.inStages {next : Option Instant}
    (h : client.Admitted c id request start next tale) : tale.InStages 0 2 := by
  obtain ⟨hprepares, hpaces⟩ := h
  exact hprepares.inStages_paces hpaces

theorem Admitted.inStages_wills {next : Option Instant} {answer : Answer Failure Unit}
    {t : Instant} (h : client.Admitted c id request start next tale)
    (hwills : client.Wills c words answer) : (tale ++ spoken t words).InStages 0 3 :=
  h.inStages.append (Wills.inStages hwills _) (by decide) (by decide) (by decide)

theorem Announced.inStages (h : client.Announced c id request start tale) :
    tale.InStages 0 3 := by
  obtain ⟨hadmitted, hwills⟩ := h
  exact hadmitted.inStages_wills hwills

theorem Replies.stage_eq {reply : Reply} (h : client.Replies c tale reply) :
    ∀ word ∈ tale.words, word.stage = 4 := by
  cases h <;> simp [Tale.words, Word.stage]

/-- There is a reply to one sending. -/
theorem Replies.sendings_eq {reply : Reply} (h : client.Replies c tale reply) :
    ∃ t d, tale.sendings = [(t, d)] ∧ reply.Of d := by
  cases h with
  | fault hresult | free _ hresult => exact ⟨_, _, rfl, hresult⟩
  | @shown t d response answer _ hresult =>
    refine ⟨t, d, rfl, ?_⟩
    rcases answer with (refusal | crash) | ⟨⟩
    · exact hresult
    · exact ⟨response, hresult⟩
    · exact hresult

/-- A reply that gives a call its response is this response. -/
theorem eq_of_verdict {response came : Response} {refusal : Option Limiter.Refusal}
    (h : verdict c (.heard came refusal) = .ok response) : response = came := by
  unfold verdict at h
  split at h
  · simp_all
  · simp_all
  · simp [Answer.fail] at h
  · split at h
    · split at h
      · simp [Answer.fail] at h
      · simp_all
    · simp [Answer.fail] at h

/-- A call that has a response has it from its last sending. -/
theorem Ends.sendings_of_ok {response : Response}
    (h : client.Ends c cancel n last (.ok response)) :
    ∃ t d, last.sendings = [(t, d)] ∧ d.result = .ok response := by
  generalize hanswer : (.ok response : Answer Failure Response) = answer at h
  cases h with
  | canceled | cut => cases hanswer
  | @decided _ reply hreplies =>
    obtain ⟨t, d, hsendings, hreply⟩ := hreplies.sendings_eq
    match reply with
    | .fault _ | .crashed _ => cases hanswer
    | .heard came refusal =>
      refine ⟨t, d, hsendings, ?_⟩
      obtain rfl : response = came := eq_of_verdict hanswer.symm
      exact hreply

theorem Exchanges.stage_eq (h : client.Exchanges c n tale) :
    ∀ word ∈ tale.words, word.stage = 4 := by
  induction h with
  | nil => simp [Tale.words]
  | snoc _ hreplies _ _ ih =>
    intro word hword
    rw [Tale.words_append, List.mem_append] at hword
    exact hword.elim (ih word) (hreplies.stage_eq word)

theorem Ends.stage_eq {answer : Answer Failure Response} (h : client.Ends c cancel n last answer) :
    ∀ word ∈ last.words, word.stage = 4 := by
  cases h with
  | canceled | cut => simp [Tale.words, Word.stage]
  | decided hreplies => exact hreplies.stage_eq

theorem Underway.inStages_ends {answer : Answer Failure Response}
    (h : client.Underway c id request start n tale) (hends : client.Ends c cancel n last answer) :
    (tale ++ last).InStages 0 4 := by
  obtain ⟨hannounced, hexchanges⟩ := h
  rw [List.append_assoc]
  refine hannounced.inStages.append (Tale.inStages_four fun word hword => ?_) (by decide)
    (by decide) (by decide)
  rw [Tale.words_append, List.mem_append] at hword
  exact hword.elim (hexchanges.stage_eq word) (hends.stage_eq word)

theorem Underway.inStages_told {answer : Answer Failure Response} {t : Instant}
    (h : client.Underway c id request start n tale) (hends : client.Ends c cancel n last answer)
    (hwords : (spoken t words).InStages 5 5) : (tale ++ last ++ spoken t words).InStages 0 5 :=
  (h.inStages_ends hends).append hwords (by decide) (by decide) (by decide)

/-- A chronicle goes through the stages of a call. -/
theorem Chronicle.ordered {result : Answer Failure Response}
    (h : client.Chronicle id request start cancel tale result) :
    tale.words.Pairwise Word.Precedes := by
  cases h with
  | unprepared hprepares => exact hprepares.inStages.ordered
  | barred hprepares hpaces => exact (hprepares.inStages_paces hpaces).ordered
  | canceled hadmitted => exact hadmitted.inStages.ordered
  | vetoed hadmitted hwills => exact (hadmitted.inStages_wills hwills).ordered
  | crashed hunderway hends => exact (hunderway.inStages_ends hends).ordered
  | failed hunderway hends hfails | failedTwice hunderway hends hfails =>
    exact (hunderway.inStages_told hends (Fails.inStages hfails _)).ordered
  | concluded hunderway hends hconcludes =>
    exact (hunderway.inStages_told hends (hconcludes.inStages _)).ordered

/-! ## What the limiter is shown -/

theorem Replies.shown_eq {reply : Reply} (h : client.Replies c tale reply)
    (hlimiter : client.limiter.isSome) : tale.shown = tale.responses := by
  cases h with
  | fault hresult =>
    simp [Tale.shown, Tale.responses, Tale.words, Word.shown?, Word.response?, hresult,
      Except.toOption]
  | free hnone => simp [hnone] at hlimiter
  | shown _ hresult =>
    simp [Tale.shown, Tale.responses, Tale.words, List.filterMap_cons, Word.shown?, Word.response?,
      hresult, Except.toOption]

theorem Exchanges.shown_eq (h : client.Exchanges c n tale) (hlimiter : client.limiter.isSome) :
    tale.shown = tale.responses := by
  induction h with
  | nil => rfl
  | snoc _ hreplies _ _ ih =>
    rw [Tale.shown_append, Tale.responses_append, ih, hreplies.shown_eq hlimiter]

/-- The limiter is shown all responses of a tale, but for one that was still on its way when the
call was canceled. -/
def ShowsAll (cancel : Option Instant) (tale : Tale) : Prop :=
  tale.shown = tale.responses ∨
    cancel.isSome ∧ ∃ response, tale.responses = tale.shown ++ [response]

theorem Ends.showsAll {answer : Answer Failure Response} (h : client.Ends c cancel n last answer)
    (hlimiter : client.limiter.isSome) : ShowsAll cancel last := by
  cases h with
  | canceled => exact .inl rfl
  | @cut t d hcancel =>
    cases hresult : d.result with
    | error timeout => exact .inl (Replies.shown_eq (.fault hresult) hlimiter)
    | ok response =>
      refine .inr ⟨hcancel, response, ?_⟩
      simp [Tale.shown, Tale.responses, Tale.words, Word.shown?, Word.response?, hresult,
        Except.toOption]
  | decided hreplies => exact .inl (hreplies.shown_eq hlimiter)

theorem ShowsAll.append (h : ShowsAll cancel last) (htale : tale.shown = tale.responses) :
    ShowsAll cancel (tale ++ last) := by
  rcases h with h | ⟨hcancel, response, h⟩
  · exact .inl (by simp [htale, h])
  · exact .inr ⟨hcancel, response, by simp [htale, h]⟩

/-- What is said after the last sending shows nothing. -/
theorem ShowsAll.told {t : Instant} (h : ShowsAll cancel tale)
    (hwords : (spoken t words).InStages 5 5) : ShowsAll cancel (tale ++ spoken t words) := by
  obtain ⟨hresponses, hshown⟩ := hwords.responses_eq (.inr (by decide))
  unfold ShowsAll
  rwa [Tale.shown_append, Tale.responses_append, hresponses, hshown, List.append_nil,
    List.append_nil]

theorem Underway.showsAll {answer : Answer Failure Response}
    (h : client.Underway c id request start n tale) (hends : client.Ends c cancel n last answer)
    (hlimiter : client.limiter.isSome) : ShowsAll cancel (tale ++ last) := by
  obtain ⟨hannounced, hexchanges⟩ := h
  obtain ⟨hresponses, hshown⟩ := hannounced.inStages.responses_eq (.inl (by decide))
  refine (hends.showsAll hlimiter).append ?_
  rw [Tale.shown_append, Tale.responses_append, hresponses, hshown, hexchanges.shown_eq hlimiter]

theorem Chronicle.showsAll {result : Answer Failure Response}
    (h : client.Chronicle id request start cancel tale result)
    (hlimiter : client.limiter.isSome) : ShowsAll cancel tale := by
  have hearly {high : Nat} {tale : Tale} (h : tale.InStages 0 high) (hhigh : high < 4) :
      ShowsAll cancel tale := by
    obtain ⟨hresponses, hshown⟩ := h.responses_eq (.inl hhigh)
    exact .inl (hshown.trans hresponses.symm)
  cases h with
  | unprepared hprepares => exact hearly hprepares.inStages (by decide)
  | barred hprepares hpaces => exact hearly (hprepares.inStages_paces hpaces) (by decide)
  | canceled hadmitted => exact hearly hadmitted.inStages (by decide)
  | vetoed hadmitted hwills => exact hearly (hadmitted.inStages_wills hwills) (by decide)
  | crashed hunderway hends => exact hunderway.showsAll hends hlimiter
  | failed hunderway hends hfails | failedTwice hunderway hends hfails =>
    exact (hunderway.showsAll hends hlimiter).told (Fails.inStages hfails _)
  | concluded hunderway hends hconcludes =>
    exact (hunderway.showsAll hends hlimiter).told (hconcludes.inStages _)

/-! ## Runs -/

variable (client) (id) (request) (cancel)

/-- Each run of a call has a chronicle. Every word that the call says to a collaborator is in it,
with the answer of the collaborator, and it ends in what the run comes to. Its words come in the
order of the stages, with none said twice but sendings and what is shown of them. The limiter is
shown all responses in their order, but for one that a cancellation leaves on its way. -/
theorem run_chronicle (s : Scene σ) :
    let ran := client.run id request cancel s
    ∃ tale result, ran.1 = some result ∧ s.Recounts client tale ran.2 ∧
      client.Chronicle id request s.clock.now cancel tale result ∧
      tale.words.Pairwise Word.Precedes ∧
      (client.limiter.isSome → ShowsAll cancel tale) := by
  obtain ⟨tale, result, hresult, hrecounts, hchronicle⟩ :=
    client.exists_chronicle id request cancel s
  exact ⟨tale, result, hresult, hrecounts, hchronicle, hchronicle.ordered,
    hchronicle.showsAll⟩

end Client

end Courier
