import Courier.Proofs.Call.Pairing

/-!
# Two runs in lockstep

A piece of a call mirrors another one if, begun in related worlds, the two add as many events that
are related one by one, give answers that match, and leave related worlds (`Act.Mirrors`). Unlike
calls that agree (`Act.Agrees`), they may have different collaborators and tell them different
things. So they are pairs that fail alike (`Act.mirrors_iff`). Pieces that are put together in the
same way of pieces that mirror each other mirror each other, and scenes that mirror each other stay
so (`Scene.Mirrors.perform`).
-/

namespace Courier

variable {σ α α' β β' ε : Type} {W : σ → σ → Prop} {E : Event → Event → Prop} {Q : α → α' → Prop}
  {R : β → β' → Prop}

theorem Answer.matches_iff_pairs {answer : Answer Failure α} {answer' : Answer Failure α'} :
    answer.Matches Q answer' ↔ answer.Pairs Eq Q answer' := by
  constructor
  · rintro (h | (f | crash))
    · exact .ok h
    · exact .fail rfl
    · exact .crash crash
  · rintro (h | @⟨f, _, rfl⟩ | crash)
    · exact .ok h
    · exact .error _
    · exact .error _

namespace Act

/-- Begun in related worlds, two pieces add related events, give answers that match and leave
related worlds. -/
def Mirrors (W : σ → σ → Prop) (E : Event → Event → Prop) (act : Act σ α) (act' : Act σ α')
    (Q : α → α' → Prop) : Prop :=
  ∀ w w', W w w' → ∃ (answer : Answer Failure α) (answer' : Answer Failure α') (v v' : σ)
    (added added' : List Event), (∀ es, act.run ⟨w, es⟩ = (answer, ⟨v, es ++ added⟩)) ∧
      (∀ es, act'.run ⟨w', es⟩ = (answer', ⟨v', es ++ added'⟩)) ∧
        W v v' ∧ List.Forall₂ E added added' ∧ answer.Matches Q answer'

theorem mirrors_iff {act : Act σ α} {act' : Act σ α'} :
    act.Mirrors W E act' Q ↔ act.Pairs W (List.Forall₂ E) Eq act' Q := by
  simp only [Mirrors, Pairs, Answer.matches_iff_pairs]

theorem Mirrors.mono {act : Act σ α} {act' : Act σ α'} {Q' : α → α' → Prop}
    (h : act.Mirrors W E act' Q) (hQ : ∀ a a', Q a a' → Q' a a') : act.Mirrors W E act' Q' := by
  intro w w' hw
  obtain ⟨answer, answer', v, v', added, added', hrun, hrun', hv, hadded, hanswer⟩ := h w w' hw
  exact ⟨answer, answer', v, v', added, added', hrun, hrun', hv, hadded, hanswer.mono hQ⟩

theorem mirrors_pure {a : α} {a' : α'} (h : Q a a') :
    (pure a : Act σ α).Mirrors W E (pure a') Q :=
  mirrors_iff.2 (pairs_pure (.forall₂ E) h)

theorem mirrors_throw (stop : Stop Failure) :
    (throw stop : Act σ α).Mirrors W E (throw stop : Act σ α') Q := by
  intro w w' hw
  refine ⟨.error stop, .error stop, w, w', [], [], fun es => ?_, fun es => ?_, hw, .nil,
    .error stop⟩
  · rw [run_throw, List.append_nil]
  · rw [run_throw, List.append_nil]

theorem mirrors_record {e e' : Event} (h : E e e') :
    (record e : Act σ Unit).Mirrors W E (record e') fun _ _ => True :=
  mirrors_iff.2 (pairs_record (.cons h .nil))

theorem mirrors_ask (ofError : ε → Failure) {f : σ → Answer ε α × σ} {f' : σ → Answer ε α' × σ}
    (h : AnswerAlike W Q f f') : (ask ofError f).Mirrors W E (ask ofError f') Q :=
  mirrors_iff.2 (pairs_ask (.forall₂ E) h fun _ _ _ => rfl)

theorem Mirrors.bind {act : Act σ α} {act' : Act σ α'} {f : α → Act σ β} {f' : α' → Act σ β'}
    (h : act.Mirrors W E act' Q) (hf : ∀ a a', Q a a' → (f a).Mirrors W E (f' a') R) :
    (act >>= f).Mirrors W E (act' >>= f') R :=
  mirrors_iff.2 ((mirrors_iff.1 h).bind (.forall₂ E) fun a a' ha => mirrors_iff.1 (hf a a' ha))

theorem mirrors_record_ask {e e' : Event} (he : E e e') (ofError : ε → Failure)
    {f : σ → Answer ε α × σ} {f' : σ → Answer ε α' × σ} (h : AnswerAlike W Q f f') :
    (record e >>= fun _ => ask ofError f).Mirrors W E (record e' >>= fun _ => ask ofError f') Q :=
  (mirrors_record he).bind fun _ _ _ => mirrors_ask ofError h

theorem Mirrors.beforeFailing {act : Act σ α} {act' : Act σ α'} {last last' : Failure → Act σ Unit}
    (h : act.Mirrors W E act' Q)
    (hlast : ∀ f, (last f).Mirrors W E (last' f) fun _ _ => True) :
    (act.beforeFailing last).Mirrors W E (act'.beforeFailing last') Q := by
  refine mirrors_iff.2 ((mirrors_iff.1 h).beforeFailing (.forall₂ E) ?_)
  rintro f _ rfl
  exact mirrors_iff.1 (hlast f)

theorem mirrors_forM {f : β → Act σ Unit} {f' : β' → Act σ Unit} {l : List β} {l' : List β'}
    (hl : List.Forall₂ R l l') (h : ∀ b b', R b b' → (f b).Mirrors W E (f' b') fun _ _ => True) :
    (l.forM f).Mirrors W E (l'.forM f') fun _ _ => True := by
  induction hl with
  | nil => exact mirrors_pure trivial
  | cons hb _ ih =>
    rw [List.forM_eq_forM, List.forM_cons, List.forM_eq_forM, List.forM_cons]
    exact (h _ _ hb).bind fun _ _ _ => ih

theorem mirrors_ite {c : Prop} [Decidable c] {act₁ act₂ : Act σ α} {act₁' act₂' : Act σ α'}
    (h₁ : c → act₁.Mirrors W E act₁' Q) (h₂ : ¬c → act₂.Mirrors W E act₂' Q) :
    (if c then act₁ else act₂).Mirrors W E (if c then act₁' else act₂') Q := by
  by_cases hc : c
  · simpa only [if_pos hc] using h₁ hc
  · simpa only [if_neg hc] using h₂ hc

theorem mirrors_onlyIf {condition : Bool} {act act' : Act σ Unit}
    (h : act.Mirrors W E act' fun _ _ => True) :
    (onlyIf condition act).Mirrors W E (onlyIf condition act') fun _ _ => True :=
  mirrors_ite (fun _ => h) fun _ => mirrors_pure trivial

end Act

/-- Two scenes at the same time have related worlds, and as many events at the same times that are
related one by one. -/
structure Scene.Mirrors (W : σ → σ → Prop) (E : Event → Event → Prop) (s s' : Scene σ) : Prop where
  clock : s.clock = s'.clock
  world : W s.world s'.world
  log : List.Forall₂ (fun e e' => e.1 = e'.1 ∧ E e.2 e'.2) s.log s'.log

namespace Scene.Mirrors

variable {s s' : Scene σ}

theorem later (h : s.Mirrors W E s') (t : Instant) : (s.later t).Mirrors W E (s'.later t) where
  clock := by simp only [Scene.later, h.clock]
  world := h.world
  log := h.log

theorem perform {act : Act σ α} {act' : Act σ α'} (h : s.Mirrors W E s')
    (hact : act.Mirrors W E act' Q) :
    (s.perform act).1.Matches Q (s'.perform act').1 ∧
      (s.perform act).2.Mirrors W E (s'.perform act').2 := by
  obtain ⟨answer, answer', v, v', added, added', hrun, hrun', hv, hadded, hanswer⟩ :=
    hact _ _ h.world
  rw [Scene.perform_of_run hrun, Scene.perform_of_run hrun']
  refine ⟨hanswer, h.clock, hv, List.rel_append h.log ?_⟩
  rw [List.forall₂_map_left_iff, List.forall₂_map_right_iff, h.clock]
  exact hadded.imp fun _ _ he => ⟨rfl, he⟩

end Scene.Mirrors

end Courier
