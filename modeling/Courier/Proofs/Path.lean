/-!
# Paths

A system takes steps from one state to the next, and each step shows something. A `Path` is a
finite run of a system with what its steps show, its history. What holds at first and is kept by
every step holds all along (`Path.invariant`). A path can be taken apart wherever its history can
(`Path.exists_append`, `Path.exists_cons`).
-/

namespace Courier

variable {S L : Type}

/-- The runs of a system from a state, with their histories. -/
inductive Path (step : S → L → S → Prop) (s : S) : List L → S → Prop where
  | nil : Path step s [] s
  | snoc {h : List L} {e : L} {s₁ s₂ : S} (hpath : Path step s h s₁) (hstep : step s₁ e s₂) :
      Path step s (h ++ [e]) s₂

namespace Path

variable {step : S → L → S → Prop} {s s' : S} {h h' : List L} {e : L}

/-- What a state and its history have at first, and every step keeps, they have all along. -/
theorem invariant {I : List L → S → Prop} (hpath : Path step s h s') (hstart : I [] s)
    (hkeep : ∀ h e s₁ s₂, I h s₁ → step s₁ e s₂ → I (h ++ [e]) s₂) : I h s' := by
  induction hpath with
  | nil => exact hstart
  | snoc _ hstep ih => exact hkeep _ _ _ _ ih hstep

theorem append {s'' : S} (hpath : Path step s h s') (hpath' : Path step s' h' s'') :
    Path step s (h ++ h') s'' := by
  induction hpath' with
  | nil => rwa [List.append_nil]
  | snoc _ hstep ih =>
    rw [← List.append_assoc]
    exact ih.snoc hstep

theorem cons {s₁ : S} (hstep : step s e s₁) (hpath : Path step s₁ h s') :
    Path step s (e :: h) s' :=
  (Path.nil.snoc hstep).append hpath

/-- A path goes through a state between two parts of its history. -/
theorem exists_append (hpath : Path step s (h ++ h') s') :
    ∃ s₁, Path step s h s₁ ∧ Path step s₁ h' s' := by
  generalize hl : h ++ h' = l at hpath
  induction hpath generalizing h' with
  | nil =>
    obtain ⟨rfl, rfl⟩ := List.append_eq_nil_iff.1 hl
    exact ⟨s, .nil, .nil⟩
  | @snoc l e s₁ s₂ hpath hstep ih =>
    rcases List.eq_nil_or_concat h' with rfl | ⟨l', e', rfl⟩
    · rw [List.append_nil] at hl
      exact ⟨s₂, hl ▸ hpath.snoc hstep, .nil⟩
    · rw [List.concat_eq_append] at hl ⊢
      rw [← List.append_assoc] at hl
      obtain ⟨hinit, hlast⟩ := List.append_inj' hl rfl
      cases hlast
      obtain ⟨s', hfirst, hrest⟩ := ih hinit
      exact ⟨s', hfirst, hrest.snoc hstep⟩

/-- A path that shows something takes a step that shows it. -/
theorem exists_cons (hpath : Path step s (h ++ e :: h') s') :
    ∃ s₁ s₂, Path step s h s₁ ∧ step s₁ e s₂ ∧ Path step s₂ h' s' := by
  rw [List.append_cons] at hpath
  obtain ⟨s₂, hfirst, hrest⟩ := hpath.exists_append
  generalize hl : h ++ [e] = l at hfirst
  cases hfirst with
  | nil => simp at hl
  | @snoc _ _ s₁ _ hfirst hstep =>
    obtain ⟨rfl, hlast⟩ := List.append_inj' hl rfl
    cases hlast
    exact ⟨s₁, s₂, hfirst, hstep, hrest⟩

end Path

end Courier
