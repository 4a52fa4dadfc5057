import Courier.Proofs.Call.Agreement
import Mathlib.Data.List.Forall2

/-!
# Two runs that fail in their own ways

Pieces of two calls may do different things and still correspond. `Act.Pairs` says that, begun in
related worlds, two pieces leave related worlds, that what they add to their journals is related as
a whole, and that both give related values, fail with related failures, or crash alike. A relation
of journals may say more than how each event is related to its counterpart.

Journals are put together when pieces are, so their relation has to go along with that (`Chain`).
-/

namespace Courier

variable {σ α α' β β' ε : Type} {W : σ → σ → Prop} {L L' K : List Event → List Event → Prop}
  {F : Failure → Failure → Prop} {Q : α → α' → Prop} {R : β → β' → Prop}

/-- In related worlds two collaborators give answers that match and leave related worlds. -/
def AnswerAlike (W : σ → σ → Prop) (Q : α → α' → Prop) (f : σ → Answer ε α × σ)
    (f' : σ → Answer ε α' × σ) : Prop :=
  ∀ w w', W w w' → (f w).1.Matches Q (f' w').1 ∧ W (f w).2 (f' w').2

/-- Answers with related values, related failures or the same crash. -/
inductive Answer.Pairs (F : Failure → Failure → Prop) (Q : α → α' → Prop) :
    Answer Failure α → Answer Failure α' → Prop where
  | ok {a : α} {a' : α'} (h : Q a a') : Pairs F Q (.ok a) (.ok a')
  | fail {f f' : Failure} (h : F f f') : Pairs F Q (.error (.error f)) (.error (.error f'))
  | crash (c : Crash) : Pairs F Q (.error (.crash c)) (.error (.crash c))

/-- A relation of journals that holds of what is put together if it holds of the parts. -/
structure Chain (L : List Event → List Event → Prop) : Prop where
  nil : L [] []
  append : ∀ {a a' b b'}, L a a' → L b b' → L (a ++ b) (a' ++ b')

theorem Chain.forall₂ (E : Event → Event → Prop) : Chain (List.Forall₂ E) where
  nil := .nil
  append h h' := List.rel_append h h'

namespace Act

/-- Begun in related worlds, two pieces add related events, leave related worlds and give related
answers. -/
def Pairs (W : σ → σ → Prop) (L : List Event → List Event → Prop) (F : Failure → Failure → Prop)
    (act : Act σ α) (act' : Act σ α') (Q : α → α' → Prop) : Prop :=
  ∀ w w', W w w' → ∃ (answer : Answer Failure α) (answer' : Answer Failure α') (v v' : σ)
    (added added' : List Event), (∀ es, act.run ⟨w, es⟩ = (answer, ⟨v, es ++ added⟩)) ∧
      (∀ es, act'.run ⟨w', es⟩ = (answer', ⟨v', es ++ added'⟩)) ∧
        W v v' ∧ L added added' ∧ answer.Pairs F Q answer'

theorem Pairs.mono {act : Act σ α} {act' : Act σ α'} (h : act.Pairs W L F act' Q)
    (hL : ∀ a a', L a a' → L' a a') : act.Pairs W L' F act' Q := by
  intro w w' hw
  obtain ⟨answer, answer', v, v', added, added', hrun, hrun', hv, hadded, hanswer⟩ := h w w' hw
  exact ⟨answer, answer', v, v', added, added', hrun, hrun', hv, hL _ _ hadded, hanswer⟩

theorem Pairs.weaken {act : Act σ α} {act' : Act σ α'} (h : act.Pairs W L F act' Q) :
    act.Pairs W L F act' fun _ _ => True := by
  intro w w' hw
  obtain ⟨_, _, v, v', added, added', hrun, hrun', hv, hadded, hvalues | hfails | crash⟩ :=
    h w w' hw
  · exact ⟨_, _, v, v', added, added', hrun, hrun', hv, hadded, .ok trivial⟩
  · exact ⟨_, _, v, v', added, added', hrun, hrun', hv, hadded, .fail hfails⟩
  · exact ⟨_, _, v, v', added, added', hrun, hrun', hv, hadded, .crash crash⟩

theorem pairs_pure (hL : Chain L) {a : α} {a' : α'} (h : Q a a') :
    (pure a : Act σ α).Pairs W L F (pure a') Q := by
  intro w w' hw
  refine ⟨.ok a, .ok a', w, w', [], [], fun es => ?_, fun es => ?_, hw, hL.nil, .ok h⟩
  · rw [run_pure, List.append_nil]
  · rw [run_pure, List.append_nil]

theorem pairs_fail (hL : Chain L) {f f' : Failure} (h : F f f') :
    (fail f : Act σ α).Pairs W L F (fail f' : Act σ α') Q := by
  intro w w' hw
  refine ⟨.error (.error f), .error (.error f'), w, w', [], [], fun es => ?_, fun es => ?_, hw,
    hL.nil, .fail h⟩
  · rw [fail, run_throw, List.append_nil]
  · rw [fail, run_throw, List.append_nil]

theorem pairs_record {e e' : Event} (h : L [e] [e']) :
    (record e : Act σ Unit).Pairs W L F (record e') fun _ _ => True :=
  fun w w' hw => ⟨.ok (), .ok (), w, w', [e], [e'], fun _ => rfl, fun _ => rfl, hw, h, .ok trivial⟩

/-- Collaborators that answer alike, with errors that are related failures. -/
theorem pairs_ask (hL : Chain L) {ofError ofError' : ε → Failure} {f : σ → Answer ε α × σ}
    {f' : σ → Answer ε α' × σ} (h : AnswerAlike W Q f f')
    (hF : ∀ e w, (f w).1 = .error (.error e) → F (ofError e) (ofError' e)) :
    (ask ofError f).Pairs W L F (ask ofError' f') Q := by
  intro w w' hw
  obtain ⟨hanswer, hworld⟩ := h w w' hw
  refine ⟨(f w).1.mapError (stopped ofError), (f' w').1.mapError (stopped ofError'), (f w).2,
    (f' w').2, [], [], fun es => ?_, fun es => ?_, hworld, hL.nil, ?_⟩
  · rw [run_ask, List.append_nil]
  · rw [run_ask, List.append_nil]
  · have herror := fun e => hF e w
    revert hanswer herror
    generalize (f w).1 = answer, (f' w').1 = answer'
    rintro (h | (e | crash)) herror
    · exact .ok h
    · exact .fail (herror e rfl)
    · exact .crash crash

/-- One piece after another. Both may be related in their own ways. -/
theorem Pairs.andThen {act : Act σ α} {act' : Act σ α'} {f : α → Act σ β} {f' : α' → Act σ β'}
    (h : act.Pairs W L F act' Q) (hf : ∀ a a', Q a a' → (f a).Pairs W L' F (f' a') R)
    (hsub : ∀ a a', L a a' → K a a')
    (hadd : ∀ a a' b b', L a a' → L' b b' → K (a ++ b) (a' ++ b')) :
    (act >>= f).Pairs W K F (act' >>= f') R := by
  intro w w' hw
  obtain ⟨_, _, v, v', added, added', hrun, hrun', hv, hadded, hvalues | hfails | crash⟩ :=
    h w w' hw
  · obtain ⟨answer, answer', u, u', more, more', hmore, hmore', hu, hevents, hanswer⟩ :=
      hf _ _ hvalues v v' hv
    refine ⟨answer, answer', u, u', added ++ more, added' ++ more', fun es => ?_, fun es => ?_, hu,
      hadd _ _ _ _ hadded hevents, hanswer⟩
    · rw [run_bind, hrun, ← List.append_assoc]
      exact hmore (es ++ added)
    · rw [run_bind, hrun', ← List.append_assoc]
      exact hmore' (es ++ added')
  · exact ⟨_, _, v, v', added, added', fun es => by rw [run_bind, hrun],
      fun es => by rw [run_bind, hrun'], hv, hsub _ _ hadded, .fail hfails⟩
  · exact ⟨_, _, v, v', added, added', fun es => by rw [run_bind, hrun],
      fun es => by rw [run_bind, hrun'], hv, hsub _ _ hadded, .crash crash⟩

theorem Pairs.bind (hL : Chain L) {act : Act σ α} {act' : Act σ α'} {f : α → Act σ β}
    {f' : α' → Act σ β'} (h : act.Pairs W L F act' Q)
    (hf : ∀ a a', Q a a' → (f a).Pairs W L F (f' a') R) :
    (act >>= f).Pairs W L F (act' >>= f') R :=
  h.andThen hf (fun _ _ => id) fun _ _ _ _ => hL.append

theorem Pairs.beforeFailing (hL : Chain L) {act : Act σ α} {act' : Act σ α'}
    {last last' : Failure → Act σ Unit} (h : act.Pairs W L F act' Q)
    (hlast : ∀ f f', F f f' → (last f).Pairs W L F (last' f') fun _ _ => True) :
    (act.beforeFailing last).Pairs W L F (act'.beforeFailing last') Q := by
  intro w w' hw
  obtain ⟨_, _, v, v', added, added', hrun, hrun', hv, hadded,
    hvalues | @⟨f, f', hfails⟩ | crash⟩ := h w w' hw
  · exact ⟨_, _, v, v', added, added', fun es => by rw [run_beforeFailing, hrun],
      fun es => by rw [run_beforeFailing, hrun'], hv, hadded, .ok hvalues⟩
  · have hfail : (last f >>= fun _ => fail f : Act σ α).Pairs W L F
        (last' f' >>= fun _ => fail f' : Act σ α') Q :=
      (hlast f f' hfails).bind hL fun _ _ _ => pairs_fail hL hfails
    obtain ⟨answer, answer', u, u', more, more', hmore, hmore', hu, hevents, hanswer⟩ :=
      hfail v v' hv
    refine ⟨answer, answer', u, u', added ++ more, added' ++ more', fun es => ?_, fun es => ?_, hu,
      hL.append hadded hevents, hanswer⟩
    · rw [run_beforeFailing, hrun, ← List.append_assoc]
      exact hmore (es ++ added)
    · rw [run_beforeFailing, hrun', ← List.append_assoc]
      exact hmore' (es ++ added')
  · exact ⟨_, _, v, v', added, added', fun es => by rw [run_beforeFailing, hrun],
      fun es => by rw [run_beforeFailing, hrun'], hv, hadded, .crash crash⟩

/-- The same is done for each member of a list. -/
theorem pairs_forM (hL : Chain L) {f f' : β → Act σ Unit} {l : List β}
    (h : ∀ b ∈ l, (f b).Pairs W L F (f' b) fun _ _ => True) :
    (l.forM f).Pairs W L F (l.forM f') fun _ _ => True := by
  induction l with
  | nil => exact pairs_pure hL trivial
  | cons b l ih =>
    obtain ⟨hb, hl⟩ := List.forall_mem_cons.1 h
    rw [List.forM_eq_forM, List.forM_cons, List.forM_cons]
    exact hb.bind hL fun _ _ _ => ih hl

theorem pairs_ite {c : Prop} [Decidable c] {act₁ act₂ : Act σ α} {act₁' act₂' : Act σ α'}
    (h₁ : c → act₁.Pairs W L F act₁' Q) (h₂ : ¬c → act₂.Pairs W L F act₂' Q) :
    (if c then act₁ else act₂).Pairs W L F (if c then act₁' else act₂') Q := by
  by_cases hc : c
  · simpa only [if_pos hc] using h₁ hc
  · simpa only [if_neg hc] using h₂ hc

theorem pairs_onlyIf (hL : Chain L) {condition : Bool} {act act' : Act σ Unit}
    (h : act.Pairs W L F act' fun _ _ => True) :
    (onlyIf condition act).Pairs W L F (onlyIf condition act') fun _ _ => True :=
  pairs_ite (fun _ => h) fun _ => pairs_pure hL trivial

end Act

end Courier
