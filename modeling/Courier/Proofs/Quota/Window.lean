import Courier.Limiter.Window
import Courier.Proofs.Clock

/-!
# Rolling a window

A window that is over when it is rolled is followed by later ones. As long as no sum is cut off,
the one that the state moves to is a whole number of windows later, and it is the one in which the
present instant lies (`Window.exists_roll?`). Nothing but the reset and what remains changes, and
the reset never moves back.
-/

namespace Courier

namespace Window

variable {w v : Window} {length : Duration} {now : Instant}

/-- What rolling a window may do : nothing, while it goes on, or begin a later one. -/
theorem roll?_cases (h : w.roll? length now = some v) :
    v = w ∧ (now < w.reset ∨ length = 0) ∨
      ∃ reset, w.reset ≤ now ∧ 0 < length ∧ now + length ≤ maxInstant ∧
        reset = (w.reset.add? (advance length (now.since w.reset))).getD (now + length) ∧
        v = { w with reset, remaining := w.limit } := by
  unfold roll? at h
  split at h
  · next hgoes => exact .inl ⟨(Option.some.inj h).symm, hgoes⟩
  · next hover =>
    obtain ⟨hnow, hlength⟩ := not_or.1 hover
    cases hfresh : now.add? length with
    | none => simp [hfresh] at h
    | some fresh =>
      obtain ⟨rfl, hshown⟩ := Instant.add?_eq_some.1 hfresh
      simp only [hfresh, Option.some.injEq] at h
      exact .inr ⟨_, Int.not_lt.1 hnow, Nat.pos_of_ne_zero hlength, hshown, rfl, h.symm⟩

/-- Rolling fails exactly if the window is over and the clock does not show the end of a window that
begins now. -/
theorem isSome_roll? (w : Window) (length : Duration) (now : Instant) :
    (w.roll? length now).isSome ↔ now < w.reset ∨ length = 0 ∨ now + length ≤ maxInstant := by
  unfold roll? Instant.add?
  rw [← or_assoc]
  by_cases hgoes : now < w.reset ∨ length = 0
  · simp [hgoes]
  · by_cases hshown : now + length ≤ maxInstant <;> simp [hgoes, hshown]

theorem roll?_last (h : w.roll? length now = some v) : v.last = w.last := by
  obtain ⟨rfl, -⟩ | ⟨reset, -, -, -, -, rfl⟩ := roll?_cases h <;> rfl

theorem roll?_limit (h : w.roll? length now = some v) : v.limit = w.limit := by
  obtain ⟨rfl, -⟩ | ⟨reset, -, -, -, -, rfl⟩ := roll?_cases h <;> rfl

/-- Rolling never moves the reset back. -/
theorem reset_le_of_roll? (h : w.roll? length now = some v) : w.reset ≤ v.reset := by
  obtain ⟨rfl, -⟩ | ⟨reset, hover, -, -, rfl, rfl⟩ := roll?_cases h
  · exact Int.le_refl _
  · simp only
    cases hadd : w.reset.add? (advance length (now.since w.reset)) with
    | none => simp only [Option.getD_none]; lia
    | some reset =>
      have := (Instant.add?_eq_some.1 hadd).1
      simp only [Option.getD_some]
      lia

/-- A window that is behind by less than the greatest step of its reset ends after the instant at
which it was rolled. -/
theorem lt_of_roll? (hlength : 0 < length) (hbehind : now.since w.reset < maxAdvance)
    (h : w.roll? length now = some v) : now < v.reset := by
  obtain ⟨rfl, hgoes⟩ | ⟨reset, hover, -, -, rfl, rfl⟩ := roll?_cases h
  · exact hgoes.resolve_right (Nat.ne_of_gt hlength)
  · have hpast : now.since w.reset < advance length (now.since w.reset) :=
      Nat.lt_min.2 ⟨Nat.lt_mul_div_succ _ hlength, hbehind⟩
    simp only
    cases hadd : w.reset.add? (advance length (now.since w.reset)) with
    | none => simp only [Option.getD_none]; lia
    | some reset =>
      have := (Instant.add?_eq_some.1 hadd).1
      unfold Instant.since at *
      simp only [Option.getD_some]
      lia

/-- A window that is over moves on by a whole number of windows, to the one in which the present
instant lies. -/
theorem exists_roll? (hlength : 0 < length) (hover : w.reset ≤ now)
    (hfresh : now + length ≤ maxInstant)
    (hadvance : length * (now.since w.reset / length + 1) ≤ maxAdvance) :
    ∃ n : Nat, 0 < n ∧ now < w.reset + n * length ∧ w.reset + n * length ≤ now + length ∧
      w.roll? length now =
        some { w with reset := w.reset + n * length, remaining := w.limit } := by
  have hlow := Nat.div_mul_le_self (now.since w.reset) length
  have hhigh := Nat.lt_mul_div_succ (now.since w.reset) hlength
  have hstep : advance length (now.since w.reset) =
      length * (now.since w.reset / length + 1) :=
    Nat.min_eq_left hadvance
  have hsince : (now.since w.reset : Int) = now - w.reset := by
    unfold Instant.since
    lia
  generalize now.since w.reset / length = periods at hlow hhigh hstep
  have hmul : ((length * (periods + 1) : Nat) : Int) = ((periods + 1 : Nat) : Int) * length := by
    rw [Nat.mul_comm, Int.natCast_mul]
  have hend : w.reset + ((periods + 1 : Nat) : Int) * length ≤ now + length := by lia
  refine ⟨periods + 1, Nat.succ_pos _, by lia, hend, ?_⟩
  have hgoes : ¬(now < w.reset ∨ length = 0) := by lia
  unfold roll?
  rw [if_neg hgoes, Instant.add?_eq_some.2 ⟨rfl, hfresh⟩, hstep]
  simp only [Instant.add?_eq_some.2 ⟨rfl, hmul ▸ Int.le_trans hend hfresh⟩, Option.getD_some, hmul]

end Window

end Courier
