import Courier.Proofs.Call.Account

/-!
# Calls that do the same

Two pieces of calls agree from a world on if they leave the same world, say the same words but for
the report of the limiter, and give answers that match (`Act.Agrees`). Responses that differ in
their announced size alone count as the same (`Response.plain`). Agreements of pieces are put
together like the pieces, and what is performed side by side from one scene stays side by side
(`Scene.Beside.perform`).
-/

namespace Courier

/-- A response without its announced size. -/
def Response.plain (r : Response) : Response :=
  { r with size := none }

/-- What lasts of a word when nobody traces : the limiter is not asked what is left. -/
def Word.lasting? : Word → Option Word
  | .asksReport .. => none
  | .didReceive i request response answer => some (.didReceive i request response.plain answer)
  | word => some word

/-- What lasts of words. -/
def lasting (words : List Word) : List Word :=
  words.filterMap Word.lasting?

@[simp] theorem lasting_append (words more : List Word) :
    lasting (words ++ more) = lasting words ++ lasting more :=
  List.filterMap_append

/-- Answers match if both are the same stop or their values are related. -/
inductive Answer.Matches {ε α β : Type} (Q : α → β → Prop) : Answer ε α → Answer ε β → Prop where
  | ok {a : α} {b : β} (h : Q a b) : Matches Q (.ok a) (.ok b)
  | error (stop : Stop ε) : Matches Q (.error stop) (.error stop)

theorem Answer.Matches.mono {ε α β : Type} {Q Q' : α → β → Prop} {answer : Answer ε α}
    {answer' : Answer ε β} (h : answer.Matches Q answer') (hQ : ∀ a b, Q a b → Q' a b) :
    answer.Matches Q' answer' := by
  cases h with
  | ok h => exact .ok (hQ _ _ h)
  | error stop => exact .error stop

/-- Every answer matches itself. -/
theorem Answer.matches_self {ε α : Type} (answer : Answer ε α) : answer.Matches Eq answer :=
  match answer with
  | .ok _ => .ok rfl
  | .error stop => .error stop

namespace Act

variable {σ α α' β β' ε : Type}

/-- Two pieces of calls agree from a world on. -/
def Agrees (client : Client σ) (clock : Clock) (w : σ) (act : Act σ α) (act' : Act σ α')
    (Q : α → α' → Prop) : Prop :=
  ∃ words words' answer answer' w', act.Does client clock w words answer w' ∧
    act'.Does client clock w words' answer' w' ∧ lasting words = lasting words' ∧
    answer.Matches Q answer'

variable {client : Client σ} {clock : Clock} {w : σ} {Q : α → α' → Prop} {R : β → β' → Prop}

theorem Agrees.mono {act : Act σ α} {act' : Act σ α'} {Q' : α → α' → Prop}
    (h : act.Agrees client clock w act' Q) (hQ : ∀ a a', Q a a' → Q' a a') :
    act.Agrees client clock w act' Q' := by
  obtain ⟨words, words', answer, answer', w', hdoes, hdoes', hwords, hanswer⟩ := h
  exact ⟨words, words', answer, answer', w', hdoes, hdoes', hwords, hanswer.mono hQ⟩

theorem agrees_pure {a : α} {a' : α'} (h : Q a a') :
    (pure a : Act σ α).Agrees client clock w (pure a') Q :=
  ⟨_, _, _, _, _, does_pure a, does_pure a', rfl, .ok h⟩

theorem agrees_throw (stop : Stop Failure) :
    (throw stop : Act σ α).Agrees client clock w (throw stop : Act σ α') Q :=
  ⟨_, _, _, _, _, does_throw stop, does_throw stop, rfl, .error stop⟩

/-- A piece that gives an account of itself agrees with itself. -/
theorem Tells.agrees {act : Act σ α} {post : List Word → Answer Failure α → Prop}
    (h : act.Tells client clock post) (w : σ) : act.Agrees client clock w act Eq := by
  obtain ⟨words, answer, w', hdoes, -⟩ := h w
  exact ⟨_, _, _, _, _, hdoes, hdoes, rfl, answer.matches_self⟩

theorem Agrees.bind {act : Act σ α} {act' : Act σ α'} {f : α → Act σ β} {f' : α' → Act σ β'}
    (h : act.Agrees client clock w act' Q)
    (hf : ∀ words a a' w', act.Does client clock w words (.ok a) w' → Q a a' →
      (f a).Agrees client clock w' (f' a') R) :
    (act >>= f).Agrees client clock w (act' >>= f') R := by
  obtain ⟨words, words', _, _, w', hdoes, hdoes', hwords, hvalues | stop⟩ := h
  · obtain ⟨more, more', answer, answer', w'', hmore, hmore', hsame, hanswer⟩ :=
      hf words _ _ w' hdoes hvalues
    exact ⟨_, _, _, _, _, hdoes.bind hmore, hdoes'.bind hmore', by simp [hwords, hsame], hanswer⟩
  · exact ⟨_, _, _, _, _, hdoes.bind_error f, hdoes'.bind_error f', hwords, .error stop⟩

/-- Lines of a trace make no difference. -/
theorem Agrees.traced {tracing tracing' : Act σ Unit} {act : Act σ α} {act' : Act σ α'}
    (h : act.Agrees client clock w act' Q) (htracing : tracing.Traces client clock)
    (htracing' : tracing'.Traces client clock) :
    (tracing >>= fun _ => act).Agrees client clock w (tracing' >>= fun _ => act') Q := by
  obtain ⟨words, words', answer, answer', w', hdoes, hdoes', hwords, hanswer⟩ := h
  exact ⟨_, _, _, _, _, (htracing w).bind hdoes, (htracing' w).bind hdoes', hwords, hanswer⟩

theorem Traces.agrees {act act' : Act σ Unit} (h : act.Traces client clock)
    (h' : act'.Traces client clock) (w : σ) : act.Agrees client clock w act' Eq :=
  ⟨_, _, _, _, _, h w, h' w, rfl, .ok rfl⟩

theorem agrees_ask_bind {event : Event} {word : Word} (ofError : ε → Failure)
    {f : σ → Answer ε α × σ} {g : α → Act σ β} {g' : α → Act σ β'} {answer : Answer ε α} {w' : σ}
    (htrace : event.isTrace = false) (hevent : word.event = event) (hf : f w = (answer, w'))
    (hspoken : client.Says clock w word w')
    (hg : ∀ a, answer = .ok a → (g a).Agrees client clock w' (g' a) R) :
    (record event >>= fun _ => ask ofError f >>= g).Agrees client clock w
      (record event >>= fun _ => ask ofError f >>= g') R := by
  rcases answer with stop | a
  · exact ⟨_, _, _, _, _, does_ask_error ofError htrace hevent hf hspoken g,
      does_ask_error ofError htrace hevent hf hspoken g', rfl, .error _⟩
  · obtain ⟨more, more', answer, answer', w'', hmore, hmore', hsame, hmatches⟩ := hg a rfl
    refine ⟨_, _, _, _, _, does_ask_bind htrace hevent hf hspoken hmore,
      does_ask_bind htrace hevent hf hspoken hmore', ?_, hmatches⟩
    rw [← List.singleton_append, lasting_append, hsame, ← lasting_append]
    rfl

theorem Agrees.beforeFailing {act : Act σ α} {act' : Act σ α'} {last last' : Failure → Act σ Unit}
    (h : act.Agrees client clock w act' Q)
    (hlast : ∀ f w, (last f).Agrees client clock w (last' f) fun _ _ => True) :
    (act.beforeFailing last).Agrees client clock w (act'.beforeFailing last') Q := by
  obtain ⟨words, words', _, _, w', hdoes, hdoes', hwords, hvalues | (f | crash)⟩ := h
  · exact ⟨_, _, _, _, _, hdoes.beforeFailing nofun last, hdoes'.beforeFailing nofun last', hwords,
      .ok hvalues⟩
  · have hfail : (last f >>= fun _ => fail f : Act σ α).Agrees client clock w'
        (last' f >>= fun _ => fail f : Act σ α') Q :=
      (hlast f w').bind fun _ _ _ _ _ _ => agrees_throw _
    obtain ⟨more, more', answer, answer', w'', hmore, hmore', hsame, hmatches⟩ := hfail
    exact ⟨_, _, _, _, _, hdoes.beforeFailing_fail hmore, hdoes'.beforeFailing_fail hmore',
      by simp [hwords, hsame], hmatches⟩
  · exact ⟨_, _, _, _, _, hdoes.beforeFailing nofun last, hdoes'.beforeFailing nofun last', hwords,
      .error _⟩

theorem agrees_ite {c : Prop} [Decidable c] {act₁ act₂ : Act σ α} {act₁' act₂' : Act σ α'}
    (h₁ : c → act₁.Agrees client clock w act₁' Q)
    (h₂ : ¬c → act₂.Agrees client clock w act₂' Q) :
    (if c then act₁ else act₂).Agrees client clock w (if c then act₁' else act₂') Q := by
  by_cases hc : c
  · simpa only [if_pos hc] using h₁ hc
  · simpa only [if_neg hc] using h₂ hc

theorem agrees_forM {ι : Type} {f f' : ι → Act σ Unit} :
    ∀ (l : List ι) (w : σ),
      (∀ b ∈ l, ∀ w, (f b).Agrees client clock w (f' b) fun _ _ => True) →
        (l.forM f).Agrees client clock w (l.forM f') fun _ _ => True
  | [], _, _ => agrees_pure trivial
  | b :: l, w, h => by
    rw [List.forM_eq_forM, List.forM_cons, List.forM_cons]
    exact (h b (by simp) w).bind fun _ _ _ w' _ _ =>
      agrees_forM l w' fun b' hb => h b' (by simp [hb])

end Act

/-! ## Scenes side by side -/

/-- What lasts of a tale. -/
def Tale.lasting (tale : Tale) : Tale :=
  tale.filterMap fun (t, word) => word.lasting?.map (t, ·)

@[simp] theorem Tale.lasting_append (tale tale' : Tale) :
    Tale.lasting (tale ++ tale') = tale.lasting ++ tale'.lasting :=
  List.filterMap_append

theorem Tale.lasting_spoken (t : Instant) (words : List Word) :
    (spoken t words).lasting = spoken t (Courier.lasting words) := by
  simp only [Tale.lasting, spoken, Courier.lasting, List.filterMap_map, List.map_filterMap]
  rfl

/-- An event that does not depend on what is traced. -/
def Event.lasts : Event → Bool
  | .traces _ | .asksReport => false
  | _ => true

/-- A timeline without lines of a trace, and without what is asked for them. -/
def Timeline.lasting (log : Timeline) : Timeline :=
  log.filter fun (_, e) => e.lasts

@[simp] theorem Timeline.lasting_append (log log' : Timeline) :
    Timeline.lasting (log ++ log') = log.lasting ++ log'.lasting :=
  List.filter_append _ _

theorem Timeline.lasting_untraced (log : Timeline) : log.untraced.lasting = log.lasting := by
  unfold Timeline.lasting Timeline.untraced
  rw [List.filter_filter]
  refine List.filter_congr fun (t, e) _ => ?_
  cases e <;> rfl

theorem Tale.lasting_events (tale : Tale) : tale.events.lasting = tale.lasting.events := by
  induction tale with
  | nil => rfl
  | cons said tale ih =>
    have hsaid : (Tale.events [said]).lasting = (Tale.lasting [said]).events := by
      obtain ⟨t, word⟩ := said
      cases word <;> rfl
    rw [← List.singleton_append, Tale.events_append, Timeline.lasting_append, hsaid, ih,
      Tale.lasting_append, Tale.events_append]

/-- Two scenes that are reached side by side from one : their tales agree in what lasts. -/
structure Scene.Beside {σ : Type} (client : Client σ) (s : Scene σ) (tale tale' : Tale)
    (s₁ s₂ : Scene σ) : Prop where
  recounts : s.Recounts client tale s₁
  recounts' : s.Recounts client tale' s₂
  clock : s₁.clock = s₂.clock
  world : s₁.world = s₂.world
  lasting : tale.lasting = tale'.lasting

namespace Scene.Beside

variable {σ α α' : Type} {client : Client σ} {s s₁ s₂ : Scene σ} {tale tale' : Tale}

theorem refl (s : Scene σ) : s.Beside client [] [] s s :=
  ⟨.refl s, .refl s, rfl, rfl, rfl⟩

theorem later (h : s.Beside client tale tale' s₁ s₂) (t : Instant) :
    s.Beside client tale tale' (s₁.later t) (s₂.later t) :=
  ⟨h.recounts.later t, h.recounts'.later t, by simp [Scene.later, h.clock], h.world, h.lasting⟩

theorem perform {act : Act σ α} {act' : Act σ α'} {Q : α → α' → Prop}
    (h : s.Beside client tale tale' s₁ s₂)
    (hact : act.Agrees client s₁.clock s₁.world act' Q) :
    ∃ more more', s.Beside client more more' (s₁.perform act).2 (s₂.perform act').2 ∧
      (s₁.perform act).1.Matches Q (s₂.perform act').1 := by
  obtain ⟨words, words', answer, answer', w', hdoes, hdoes', hwords, hanswer⟩ := hact
  rw [h.clock, h.world] at hdoes'
  obtain ⟨t₁, hperform, hclock, hworld, hrecounts⟩ := h.recounts.perform_does hdoes
  obtain ⟨t₂, hperform', hclock', hworld', hrecounts'⟩ := h.recounts'.perform_does hdoes'
  rw [hperform, hperform']
  refine ⟨_, _, ⟨hrecounts, hrecounts', ?_, ?_, ?_⟩, hanswer⟩
  · rw [hclock, hclock', h.clock]
  · rw [hworld, hworld']
  · simp [h.lasting, Tale.lasting_spoken, hwords, h.clock]

/-- What happens side by side is the same. -/
theorem log_eq (h : s.Beside client tale tale' s₁ s₂) : s₁.log.lasting = s₂.log.lasting := by
  rw [← s₁.log.lasting_untraced, ← s₂.log.lasting_untraced, h.recounts.log, h.recounts'.log]
  simp only [Timeline.lasting_append, Tale.lasting_events, h.lasting]

end Scene.Beside

end Courier
