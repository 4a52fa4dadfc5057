import Courier.Proofs.Quota.Window
import Courier.Rehearsal.World

/-!
# Asking a quota what is left

A quota that is asked what is left at an instant rolls its window there, as it does before it
hands out an instant. While the clock has room for it (`Window.Room`), the window that was rolled
ends after the instant and so is not rolled again, and a quota that was asked what is left hands
out the same instant as one that was not (`Quota.next_report`). Calls may ask such a limiter, or
one that does nothing when it is asked, without a trace (`Limiter.Tame`).
-/

namespace Courier

namespace Window

/-- The clock has room to roll a window at an instant : it shows the end of a window that begins
there, and the step of `reset` is not cut off. -/
def Room (w : Window) (length : Duration) (now : Instant) : Prop :=
  now < w.reset ∨ length = 0 ∨
    (now + length ≤ maxInstant ∧ length * (now.since w.reset / length + 1) ≤ maxAdvance)

instance (w : Window) (length : Duration) (now : Instant) : Decidable (w.Room length now) :=
  inferInstanceAs (Decidable (_ ∨ _ ∨ _))

/-- A window that was rolled at an instant stays as it is there. -/
theorem exists_roll {w : Window} {length : Duration} {now : Instant} (h : w.Room length now) :
    ∃ w', w.roll? length now = some w' ∧ w'.roll? length now = some w' := by
  by_cases hover : now < w.reset ∨ length = 0
  · have hroll : w.roll? length now = some w := if_pos hover
    exact ⟨w, hroll, hroll⟩
  obtain ⟨hnow, hlength⟩ := not_or.1 hover
  obtain ⟨hfresh, hadvance⟩ := (h.resolve_left hnow).resolve_left hlength
  obtain ⟨n, -, hafter, -, hroll⟩ :=
    exists_roll? (Nat.pos_of_ne_zero hlength) (Int.not_lt.1 hnow) hfresh hadvance
  exact ⟨_, hroll, if_pos (.inl hafter)⟩

end Window

/-- A quota that was asked what is left at an instant goes on as if it had not been asked. -/
theorem Quota.next_report {q : Quota} {w : Window} {now : Instant} (h : w.Room q.window now) :
    (q.report w now).1.isSome ∧ q.next (q.report w now).2 now = q.next w now := by
  obtain ⟨w', hroll, hagain⟩ := w.exists_roll h
  refine ⟨by simp [report, hroll], ?_⟩
  by_cases hwindow : q.window = 0
  · have hsame : w.roll? q.window now = some w := if_pos (.inr hwindow)
    simp [report, hsame]
  · simp [report, next, hwindow, hroll, hagain]

namespace Limiter

variable {σ : Type}

/-- A limiter is a quota whose window is a part of the world. The world that holds a window is
`held` of it. -/
structure Keeps (l : Limiter σ) (q : Quota) (held : Window → σ) : Prop where
  report : ∀ w now, l.report now (held w) =
    (.ofOption .clockOverflow (q.report w now).1, held (q.report w now).2)
  next : ∀ w now request, l.next now request (held w) =
    (.ofOption .clockOverflow (q.next w now).1, held (q.next w now).2)
  update : ∀ w start clock response, l.update start clock response (held w) =
    let updated := q.update w clock response.status response.headers
    ((match updated.1 with
      | some answer => .ofExcept answer
      | none => .crashed .clockOverflow), held updated.2)

/-- The limiter in a slot of the world keeps the quota there. -/
theorem keeps_slot (w : Rehearsal.World) {slot : Nat} (h : slot < w.pacers.length) (q : Quota) :
    (Rehearsal.World.limiter slot).Keeps q fun window =>
      { w with pacers := w.pacers.set slot (.quota q window) } where
  report window now := by
    simp [Rehearsal.World.limiter, Rehearsal.World.usePacer, h, Rehearsal.Pacer.report]
  next window now request := by
    simp [Rehearsal.World.limiter, Rehearsal.World.usePacer, h, Rehearsal.Pacer.next]
  update window _ clock response := by
    rcases hupdate : q.update window clock response.status response.headers with ⟨_ | _, _⟩ <;>
      simp [Rehearsal.World.limiter, Rehearsal.World.usePacer, h, Rehearsal.Pacer.update, hupdate]

/-- A limiter that may be asked what is left at an instant in a world. It does nothing when it is
asked, or it is a quota and the clock has room to roll its window. -/
inductive Tame (l : Limiter σ) (now : Instant) (w : σ) : Prop where
  | idle (hreport : ∃ report, l.report now w = (.ok report, w))
  | quota {q : Quota} {held : Window → σ} {window : Window} (hkeeps : l.Keeps q held)
      (hworld : held window = w) (hroom : window.Room q.window now)

/-- A limiter goes on after it was asked what is left as if it had not been asked. -/
theorem Tame.next_report {l : Limiter σ} {now : Instant} {w : σ} (h : l.Tame now w)
    (request : Outgoing) :
    ∃ report w', l.report now w = (.ok report, w') ∧
      l.next now request w' = l.next now request w := by
  cases h with
  | idle hreport =>
    obtain ⟨report, hreport⟩ := hreport
    exact ⟨report, w, hreport, rfl⟩
  | @quota q held window hkeeps hworld hroom =>
    subst hworld
    obtain ⟨hsome, hnext⟩ := Quota.next_report hroom
    obtain ⟨report, hreport⟩ := Option.isSome_iff_exists.1 hsome
    refine ⟨report, held (q.report window now).2, by rw [hkeeps.report, hreport]; rfl, ?_⟩
    simp only [hkeeps.next, hnext]

end Limiter

end Courier
