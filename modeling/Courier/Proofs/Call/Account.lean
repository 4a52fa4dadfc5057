import Courier.Proofs.Call.Piece
import Courier.Proofs.Path

/-!
# What a call tells its collaborators

A `Word` is something that a call asks of a collaborator or tells it, with the answer.
`Client.Says` says that the collaborator does answer so, in a world that this changes. A piece of
a call gives an account of what it does (`Act.Tells`) : the events that it adds, but for the lines
of a trace, are those of words that were said one after the other, and the words and its own answer
fit each other. Accounts of pieces are put together like the pieces (`Act.Tells.bind` and so on),
and what a scene adds to its log is the account of what is performed in it
(`Scene.Recounts.perform`).
-/

namespace Courier

/-- Something that a call asks of a collaborator or tells it, with the answer. -/
inductive Word where
  | authorizes (resolved : Outgoing) (answer : Answer AuthFault Outgoing)
  | asksReport (start : Instant) (answer : Answer Empty Limiter.Report)
  | asksNext (start : Instant) (request : Outgoing) (answer : Answer Limiter.Refusal Instant)
  | willSend (observer : Nat) (request : Outgoing) (answer : Answer Failure Unit)
  | sends (request : Outgoing) (delivery : Delivery)
  | shows (start : Instant) (response : Response) (answer : Answer Limiter.Refusal Unit)
  | didReceive (observer : Nat) (request : Outgoing) (response : Response)
      (answer : Answer Failure Unit)
  | failed (observer : Nat) (request : Outgoing) (f : Failure) (answer : Answer Empty Unit)

/-- The event of a word. -/
def Word.event : Word → Event
  | .authorizes _ _ => .authorizes
  | .asksReport _ _ => .asksReport
  | .asksNext start _ _ => .asksNext start
  | .willSend i request _ => .willSend i request
  | .sends request _ => .sends request
  | .shows _ response _ => .shows response.status
  | .didReceive i request response _ => .didReceive i request response.status
  | .failed i request f _ => .failed i request f

/-- A line of a trace. -/
def Event.isTrace : Event → Bool
  | .traces _ => true
  | _ => false

/-- A timeline without the lines of a trace. -/
def Timeline.untraced (log : Timeline) : Timeline :=
  log.filter fun (_, e) => !e.isTrace

/-- Words with their times. -/
abbrev Tale := List (Instant × Word)

/-- Words that are said at one time. -/
def spoken (t : Instant) (words : List Word) : Tale :=
  words.map (t, ·)

/-- The events of a tale. -/
def Tale.events (tale : Tale) : Timeline :=
  tale.map fun (t, word) => (t, word.event)

@[simp] theorem spoken_nil (t : Instant) : spoken t [] = [] :=
  rfl

@[simp] theorem spoken_append (t : Instant) (words words' : List Word) :
    spoken t (words ++ words') = spoken t words ++ spoken t words' :=
  List.map_append

/-- A collaborator of a client gives the answer of a word, in a world that this changes. -/
def Client.Says {σ : Type} (client : Client σ) (clock : Clock) (w : σ) (word : Word) (w' : σ) :
    Prop :=
  match word with
  | .authorizes resolved answer => ∃ a, client.authorizer = some a ∧ a resolved w = (answer, w')
  | .asksReport start answer => ∃ l, client.limiter = some l ∧ l.report start w = (answer, w')
  | .asksNext start request answer =>
    ∃ l, client.limiter = some l ∧ l.next start request w = (answer, w')
  | .willSend i request answer =>
    ∃ o, client.observers[i]? = some o ∧ o.willSend request w = (answer, w')
  | .sends request delivery => client.transport clock.now request w = (delivery, w')
  | .shows start response answer =>
    ∃ l, client.limiter = some l ∧ l.update start clock response w = (answer, w')
  | .didReceive i request response answer =>
    ∃ o, client.observers[i]? = some o ∧ o.didReceive request response w = (answer, w')
  | .failed i request f answer =>
    ∃ o, client.observers[i]? = some o ∧ o.failed request f w = (answer, w')

/-- A word is said at its time. -/
def Client.Speaks {σ : Type} (client : Client σ) (epoch : Int) (w : σ) (said : Instant × Word)
    (w' : σ) : Prop :=
  client.Says ⟨said.1, epoch⟩ w said.2 w'

namespace Act

variable {σ α β ε : Type}

/-! ## What a piece does from a world on -/

/-- What a piece of a call does from a world on, whatever the journal holds. It says words in turn,
answers, and leaves a world. The events that it adds, but for lines of a trace, are those of the
words. -/
def Does (client : Client σ) (clock : Clock) (act : Act σ α) (w : σ) (words : List Word)
    (answer : Answer Failure α) (w' : σ) : Prop :=
  ∃ added, (∀ es, act.run ⟨w, es⟩ = (answer, ⟨w', es ++ added⟩)) ∧
    added.filter (!·.isTrace) = words.map Word.event ∧
    Path (client.Speaks clock.epoch) w (spoken clock.now words) w'

variable {client : Client σ} {clock : Clock} {w w' w'' : σ} {words more : List Word}

theorem does_pure (a : α) : (pure a : Act σ α).Does client clock w [] (.ok a) w :=
  ⟨[], fun es => by rw [run_pure, List.append_nil], rfl, .nil⟩

theorem does_throw (stop : Stop Failure) :
    (throw stop : Act σ α).Does client clock w [] (.error stop) w :=
  ⟨[], fun es => by rw [run_throw, List.append_nil], rfl, .nil⟩

/-- A line of a trace is no word. -/
theorem does_traces (t : Trace) :
    (record (.traces t) : Act σ Unit).Does client clock w [] (.ok ()) w :=
  ⟨[.traces t], fun _ => rfl, rfl, .nil⟩

/-- A collaborator that is asked says a word. -/
theorem does_ask {event : Event} {word : Word} (ofError : ε → Failure) {f : σ → Answer ε α × σ}
    {answer : Answer ε α} (htrace : event.isTrace = false) (hevent : word.event = event)
    (hf : f w = (answer, w')) (hspoken : client.Says clock w word w') :
    (record event >>= fun _ => ask ofError f).Does client clock w [word]
      (answer.mapError (stopped ofError)) w' := by
  refine ⟨[event], fun es => ?_, by simp [htrace, hevent], Path.nil.snoc (h := []) hspoken⟩
  rw [run_bind, run_record]
  exact (run_ask ofError f _).trans (by simp [hf])

theorem Does.bind {act : Act σ α} {f : α → Act σ β} {a : α} {answer : Answer Failure β}
    (h : act.Does client clock w words (.ok a) w')
    (hf : (f a).Does client clock w' more answer w'') :
    (act >>= f).Does client clock w (words ++ more) answer w'' := by
  obtain ⟨added, hrun, hevents, hpath⟩ := h
  obtain ⟨added', hrun', hevents', hpath'⟩ := hf
  refine ⟨added ++ added', fun es => ?_, by simp [hevents, hevents'], ?_⟩
  · rw [run_bind, hrun]
    simpa using hrun' (es ++ added)
  · rw [spoken_append]
    exact hpath.append hpath'

theorem Does.bind_error {act : Act σ α} {stop : Stop Failure}
    (h : act.Does client clock w words (.error stop) w') (f : α → Act σ β) :
    (act >>= f).Does client clock w words (.error stop) w' := by
  obtain ⟨added, hrun, hevents, hpath⟩ := h
  exact ⟨added, fun es => by rw [run_bind, hrun], hevents, hpath⟩

/-- A piece that does not fail does nothing else before. -/
theorem Does.beforeFailing {act : Act σ α} {answer : Answer Failure α}
    (h : act.Does client clock w words answer w') (hanswer : ∀ f, answer ≠ .fail f)
    (last : Failure → Act σ Unit) :
    (act.beforeFailing last).Does client clock w words answer w' := by
  obtain ⟨added, hrun, hevents, hpath⟩ := h
  refine ⟨added, fun es => ?_, hevents, hpath⟩
  rw [run_beforeFailing, hrun]
  match answer, hanswer with
  | .ok _, _ | .error (.crash _), _ => rfl
  | .error (.error f), hanswer => exact absurd rfl (hanswer f)

theorem Does.beforeFailing_fail {act : Act σ α} {last : Failure → Act σ Unit} {f : Failure}
    {answer : Answer Failure α} (h : act.Does client clock w words (.fail f) w')
    (hlast : (last f >>= fun _ => fail f : Act σ α).Does client clock w' more answer w'') :
    (act.beforeFailing last).Does client clock w (words ++ more) answer w'' := by
  obtain ⟨added, hrun, hevents, hpath⟩ := h
  obtain ⟨added', hrun', hevents', hpath'⟩ := hlast
  refine ⟨added ++ added', fun es => ?_, by simp [hevents, hevents'], ?_⟩
  · rw [run_beforeFailing, hrun, ← List.append_assoc]
    exact hrun' (es ++ added)
  · rw [spoken_append]
    exact hpath.append hpath'

/-- A collaborator that is asked gives a value, and the call goes on from there. -/
theorem does_ask_bind {event : Event} {word : Word} {ofError : ε → Failure}
    {f : σ → Answer ε α × σ} {g : α → Act σ β} {a : α} {answer : Answer Failure β}
    (htrace : event.isTrace = false) (hevent : word.event = event) (hf : f w = (.ok a, w'))
    (hspoken : client.Says clock w word w') (hg : (g a).Does client clock w' more answer w'') :
    (record event >>= fun _ => ask ofError f >>= g).Does client clock w (word :: more) answer
      w'' := by
  have hdoes := (does_ask ofError htrace hevent hf hspoken).bind hg
  rwa [bind_assoc] at hdoes

/-- A collaborator that is asked stops the call. -/
theorem does_ask_error {event : Event} {word : Word} (ofError : ε → Failure)
    {f : σ → Answer ε α × σ} {stop : Stop ε} (htrace : event.isTrace = false)
    (hevent : word.event = event) (hf : f w = (.error stop, w'))
    (hspoken : client.Says clock w word w') (g : α → Act σ β) :
    (record event >>= fun _ => ask ofError f >>= g).Does client clock w [word]
      (.error (stopped ofError stop)) w' := by
  have hdoes := (does_ask ofError htrace hevent hf hspoken).bind_error g
  rwa [bind_assoc] at hdoes

/-- A piece of a call does one thing only. -/
theorem Does.unique {act : Act σ α} {words words' : List Word} {answer answer' : Answer Failure α}
    (h : act.Does client clock w words answer w')
    (h' : act.Does client clock w words' answer' w'') :
    answer = answer' ∧ w' = w'' := by
  obtain ⟨added, hrun, -⟩ := h
  obtain ⟨added', hrun', -⟩ := h'
  obtain ⟨hanswer, hjournal⟩ := Prod.mk.inj ((hrun []).symm.trans (hrun' []))
  exact ⟨hanswer, (Journal.mk.inj hjournal).1⟩

/-! ## Accounts -/

/-- A piece of a call gives an account of itself : from every world, what it says goes with what it
answers. -/
def Tells (client : Client σ) (clock : Clock) (act : Act σ α)
    (post : List Word → Answer Failure α → Prop) : Prop :=
  ∀ w, ∃ words answer w', act.Does client clock w words answer w' ∧ post words answer

variable {post : List Word → Answer Failure α → Prop} {post' : List Word → Answer Failure β → Prop}

theorem Tells.mono {act : Act σ α} {post' : List Word → Answer Failure α → Prop}
    (h : act.Tells client clock post) (hpost : ∀ words answer, post words answer →
      post' words answer) : act.Tells client clock post' := by
  intro w
  obtain ⟨words, answer, w', hdoes, hp⟩ := h w
  exact ⟨words, answer, w', hdoes, hpost _ _ hp⟩

theorem tells_pure {a : α} (h : post [] (.ok a)) : (pure a : Act σ α).Tells client clock post :=
  fun _ => ⟨_, _, _, does_pure a, h⟩

theorem tells_throw {stop : Stop Failure} (h : post [] (.error stop)) :
    (throw stop : Act σ α).Tells client clock post :=
  fun _ => ⟨_, _, _, does_throw stop, h⟩

theorem tells_fail {f : Failure} (h : post [] (.fail f)) :
    (fail f : Act σ α).Tells client clock post :=
  tells_throw h

theorem tells_ask {event : Event} {ofError : ε → Failure} {f : σ → Answer ε α × σ}
    (htrace : event.isTrace = false)
    (h : ∀ w, ∃ word : Word, word.event = event ∧ client.Says clock w word (f w).2 ∧
      post [word] ((f w).1.mapError (stopped ofError))) :
    (record event >>= fun _ => ask ofError f).Tells client clock post := by
  intro w
  obtain ⟨word, hevent, hspoken, hpost⟩ := h w
  exact ⟨_, _, _, does_ask ofError htrace hevent rfl hspoken, hpost⟩

theorem Tells.bind {act : Act σ α} {f : α → Act σ β} (h : act.Tells client clock post)
    (hstop : ∀ words stop, post words (.error stop) → post' words (.error stop))
    (hf : ∀ words a, post words (.ok a) →
      (f a).Tells client clock fun more answer => post' (words ++ more) answer) :
    (act >>= f).Tells client clock post' := by
  intro w
  obtain ⟨words, stop | a, w', hdoes, hpost⟩ := h w
  · exact ⟨_, _, _, hdoes.bind_error f, hstop _ _ hpost⟩
  · obtain ⟨more, answer, w'', hdoes', hpost'⟩ := hf words a hpost w'
    exact ⟨_, _, _, hdoes.bind hdoes', hpost'⟩

/-- A piece of a call that only traces. -/
def Traces (client : Client σ) (clock : Clock) (act : Act σ Unit) : Prop :=
  ∀ w, act.Does client clock w [] (.ok ()) w

theorem traces_record (t : Trace) : (record (.traces t) : Act σ Unit).Traces client clock :=
  fun _ => does_traces t

theorem Traces.tells {act : Act σ Unit} {post : List Word → Answer Failure Unit → Prop}
    (h : act.Traces client clock) (hpost : post [] (.ok ())) : act.Tells client clock post :=
  fun w => ⟨_, _, _, h w, hpost⟩

theorem Traces.andThen {act : Act σ Unit} {act' : Act σ β} (h : act.Traces client clock)
    (h' : act'.Tells client clock post') :
    (act >>= fun _ => act').Tells client clock post' := by
  intro w
  obtain ⟨words, answer, w', hdoes, hpost⟩ := h' w
  exact ⟨_, _, _, (h w).bind hdoes, hpost⟩

theorem Traces.andTraces {act act' : Act σ Unit} (h : act.Traces client clock)
    (h' : act'.Traces client clock) : (act >>= fun _ => act').Traces client clock :=
  fun w => (h w).bind (h' w)

/-- A collaborator that is asked says a word, and the call goes on from there. -/
theorem tells_ask_bind {event : Event} {ofError : ε → Failure} {f : σ → Answer ε α × σ}
    {g : α → Act σ β} (htrace : event.isTrace = false)
    (h : ∀ w, ∃ word : Word, word.event = event ∧ client.Says clock w word (f w).2 ∧
      match (f w).1 with
      | .ok a => (g a).Tells client clock fun more answer => post' (word :: more) answer
      | .error stop => post' [word] (.error (stopped ofError stop))) :
    (record event >>= fun _ => ask ofError f >>= g).Tells client clock post' := by
  intro w
  obtain ⟨word, hevent, hspoken, hpost⟩ := h w
  rcases hf : f w with ⟨stop | a, w'⟩ <;> rw [hf] at hspoken hpost
  · exact ⟨_, _, _, does_ask_error ofError htrace hevent hf hspoken g, hpost⟩
  · obtain ⟨more, answer, w'', hdoes, hpost'⟩ := hpost w'
    exact ⟨_, _, _, does_ask_bind htrace hevent hf hspoken hdoes, hpost'⟩

theorem Tells.beforeFailing {act : Act σ α} {last : Failure → Act σ Unit}
    {post' : List Word → Answer Failure α → Prop} (h : act.Tells client clock post)
    (hok : ∀ words a, post words (.ok a) → post' words (.ok a))
    (hcrash : ∀ words c, post words (.crashed c) → post' words (.crashed c))
    (hfail : ∀ words f, post words (.fail f) →
      (last f >>= fun _ => fail f : Act σ α).Tells client clock
        fun more answer => post' (words ++ more) answer) :
    (act.beforeFailing last).Tells client clock post' := by
  intro w
  obtain ⟨words, (f | c) | a, w', hdoes, hpost⟩ := h w
  · obtain ⟨more, answer, w'', hdoes', hpost'⟩ := hfail words f hpost w'
    exact ⟨_, _, _, hdoes.beforeFailing_fail hdoes', hpost'⟩
  · exact ⟨_, _, _, hdoes.beforeFailing nofun last, hcrash _ _ hpost⟩
  · exact ⟨_, _, _, hdoes.beforeFailing nofun last, hok _ _ hpost⟩

theorem tells_ite {c : Prop} [Decidable c] {act act' : Act σ α}
    (h : c → act.Tells client clock post) (h' : ¬c → act'.Tells client clock post) :
    (if c then act else act').Tells client clock post := by
  by_cases hc : c
  · simpa only [if_pos hc] using h hc
  · simpa only [if_neg hc] using h' hc

theorem Traces.onlyIf {act : Act σ Unit} (h : act.Traces client clock) (condition : Bool) :
    (onlyIf condition act).Traces client clock :=
  match condition with
  | true => h
  | false => fun _ => does_pure ()

end Act

/-! ## Asking the observers -/

/-- The observers are asked in their order, from an index on, up to the first that stops the
call. -/
inductive Polled {ε : Type} (word : Nat → Answer ε Unit → Word) (number : Nat) :
    Nat → List Word → Answer ε Unit → Prop where
  | all : Polled word number number [] (.ok ())
  | agrees {i : Nat} {words : List Word} {answer : Answer ε Unit} (hi : i < number)
      (hrest : Polled word number (i + 1) words answer) :
      Polled word number i (word i (.ok ()) :: words) answer
  | stops {i : Nat} {stop : Stop ε} (hi : i < number) :
      Polled word number i [word i (.error stop)] (.error stop)

theorem Act.tells_forM {σ ε : Type} {client : Client σ} {clock : Clock} {event : Nat → Event}
    (ofError : ε → Failure) (ask : Observer σ → σ → Answer ε Unit × σ)
    (word : Nat → Answer ε Unit → Word) (htrace : ∀ i, (event i).isTrace = false)
    (hevent : ∀ i answer, (word i answer).event = event i)
    (hspoken : ∀ i o w, client.observers[i]? = some o →
      client.Says clock w (word i (ask o w).1) (ask o w).2) :
    ∀ (l : List (Observer σ)) (k : Nat), client.observers.drop k = l →
      k ≤ client.observers.length →
      Act.Tells client clock ((l.zipIdx k).forM fun (o, i) => do
        Act.record (event i)
        Act.ask ofError (ask o)) fun words answer => ∃ answer',
          Polled word client.observers.length k words answer' ∧
            answer = answer'.mapError (Act.stopped ofError)
  | [], k, hdrop, hk => by
    obtain rfl : k = client.observers.length := Nat.le_antisymm hk (List.drop_eq_nil_iff.1 hdrop)
    exact Act.tells_pure ⟨.ok (), .all, rfl⟩
  | o :: l, k, hdrop, hk => by
    have hlt : k < client.observers.length := Nat.lt_of_not_le fun hle => by
      rw [List.drop_eq_nil_of_le hle] at hdrop
      cases hdrop
    have ho : client.observers[k]? = some o := by
      rw [← List.head?_drop, hdrop]
      rfl
    have hrest : client.observers.drop (k + 1) = l := by
      rw [← List.tail_drop, hdrop]
      rfl
    have ih := tells_forM ofError ask word htrace hevent hspoken l (k + 1) hrest hlt
    rw [List.zipIdx_cons, List.forM_eq_forM, List.forM_cons, bind_assoc]
    refine Act.tells_ask_bind (htrace k) fun w =>
      ⟨word k (ask o w).1, hevent k _, hspoken k o w ho, ?_⟩
    rcases (ask o w).1 with stop | ⟨⟩
    · exact ⟨.error stop, .stops hlt, rfl⟩
    · refine ih.mono ?_
      rintro words answer ⟨answer', hpolled, rfl⟩
      exact ⟨answer', .agrees hlt hpolled, rfl⟩

theorem Act.mapError_stopped_id {α : Type} (answer : Answer Failure α) :
    answer.mapError (Act.stopped id) = answer := by
  rcases answer with (f | crash) | a <;> rfl

namespace Client

variable {σ : Type} (client : Client σ) (clock : Clock) (c : Call)

/-- Observers are told that a request will be sent, up to the first that does not agree. -/
def Wills : List Word → Answer Failure Unit → Prop :=
  Polled (.willSend · c.request ·) client.observers.length 0

/-- Observers are told of a response, up to the first that does not agree. -/
def Receives (response : Response) : List Word → Answer Failure Unit → Prop :=
  Polled (.didReceive · c.request response ·) client.observers.length 0

/-- Observers are told of a failure, up to the first that crashes. -/
def Fails (f : Failure) : List Word → Answer Empty Unit → Prop :=
  Polled (.failed · c.request f ·) client.observers.length 0

theorem askObservers_tells {event : Nat → Event}
    (ask : Observer σ → σ → Answer Failure Unit × σ) (word : Nat → Answer Failure Unit → Word)
    (htrace : ∀ i, (event i).isTrace = false)
    (hevent : ∀ i answer, (word i answer).event = event i)
    (hspoken : ∀ i o w, client.observers[i]? = some o →
      client.Says clock w (word i (ask o w).1) (ask o w).2) :
    (client.askObservers event ask).Tells client clock
      (Polled word client.observers.length 0) := by
  refine (Act.tells_forM id ask word htrace hevent hspoken client.observers 0 rfl
    (Nat.zero_le _)).mono ?_
  rintro words answer ⟨answer', hpolled, rfl⟩
  rwa [Act.mapError_stopped_id]

theorem tellFailure_tells (f : Failure) :
    (client.tellFailure c f).Tells client clock fun words answer => ∃ answer',
      client.Fails c f words answer' ∧ answer = answer'.mapError (Act.stopped Empty.elim) :=
  Act.tells_forM Empty.elim (·.failed c.request f) (.failed · c.request f ·) (fun _ => rfl)
    (fun _ _ => rfl) (fun _ o _ ho => ⟨o, ho, rfl⟩) client.observers 0 rfl (Nat.zero_le _)

end Client

/-! ## What a scene tells -/

@[simp] theorem Timeline.untraced_append (log log' : Timeline) :
    Timeline.untraced (log ++ log') = log.untraced ++ log'.untraced :=
  List.filter_append _ _

@[simp] theorem Tale.events_append (tale tale' : Tale) :
    Tale.events (tale ++ tale') = tale.events ++ tale'.events :=
  List.map_append

/-- A tale of what has happened from one scene to another. -/
structure Scene.Recounts {σ : Type} (client : Client σ) (s : Scene σ) (tale : Tale)
    (s' : Scene σ) : Prop where
  epoch : s'.clock.epoch = s.clock.epoch
  log : s'.log.untraced = s.log.untraced ++ tale.events
  said : Path (client.Speaks s.clock.epoch) s.world tale s'.world

namespace Scene.Recounts

variable {σ α : Type} {client : Client σ} {s s' : Scene σ} {tale : Tale}

theorem refl (s : Scene σ) : s.Recounts client [] s :=
  ⟨rfl, (List.append_nil _).symm, .nil⟩

theorem later (h : s.Recounts client tale s') (t : Instant) : s.Recounts client tale (s'.later t) :=
  ⟨h.epoch, h.log, h.said⟩

/-- A piece of a call goes on with the tale. -/
theorem perform_does {act : Act σ α} {words : List Word} {answer : Answer Failure α} {w' : σ}
    (h : s.Recounts client tale s')
    (hact : act.Does client s'.clock s'.world words answer w') :
    ∃ s'', s'.perform act = (answer, s'') ∧ s''.clock = s'.clock ∧ s''.world = w' ∧
      s.Recounts client (tale ++ spoken s'.clock.now words) s'' := by
  obtain ⟨added, hrun, hevents, hpath⟩ := hact
  refine ⟨{ s' with world := w', log := s'.log ++ added.map (s'.clock.now, ·) },
    Scene.perform_of_run hrun, rfl, rfl, h.epoch, ?_, ?_⟩
  · have hadded : Timeline.untraced (added.map (s'.clock.now, ·)) =
        Tale.events (spoken s'.clock.now words) := by
      simp only [Timeline.untraced, Tale.events, spoken, List.filter_map, List.map_map]
      change (added.filter (!·.isTrace)).map _ = _
      rw [hevents, List.map_map]
      rfl
    simp only [Timeline.untraced_append, Tale.events_append, h.log, hadded, List.append_assoc]
  · rw [h.epoch] at hpath
    exact h.said.append hpath

theorem perform {act : Act σ α} {post : List Word → Answer Failure α → Prop}
    (h : s.Recounts client tale s') (hact : act.Tells client s'.clock post) :
    ∃ words, s.Recounts client (tale ++ spoken s'.clock.now words) (s'.perform act).2 ∧
      post words (s'.perform act).1 := by
  obtain ⟨words, answer, w', hdoes, hpost⟩ := hact s'.world
  obtain ⟨s'', hperformed, -, -, hrecounts⟩ := h.perform_does hdoes
  rw [hperformed]
  exact ⟨words, hrecounts, hpost⟩

end Scene.Recounts

end Courier
