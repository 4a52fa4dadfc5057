import Courier.Clock
import Mathlib.Order.Bounds.Defs

/-!
# When sleeps end

A sleep ends at the first whole millisecond that is not before its time. As long as that time is
on the clock (`Instant.OnClock`), the end of a sleep until `t` does not depend on when the sleep
begins, unless it begins after `t` (`Instant.wake_since`).
-/

namespace Courier

namespace Instant

/-- Instants that the clock can show. -/
def OnClock (t : Instant) : Prop :=
  maxInstant - maxDuration ≤ t ∧ t ≤ maxInstant

instance (t : Instant) : Decidable t.OnClock :=
  inferInstanceAs (Decidable (_ ∧ _))

/-- The first whole millisecond that is not before an instant. -/
def FirstMillis (due : Instant) : Instant → Prop :=
  IsLeast {t : Instant | (millisecond : Int) ∣ t ∧ due ≤ t}

theorem le_ceilMillis (t : Instant) : t ≤ ceilMillis t := by
  unfold ceilMillis millisecond Instant at *
  omega

theorem millisecond_dvd_ceilMillis (t : Instant) : (millisecond : Int) ∣ ceilMillis t :=
  ⟨_, Int.mul_comm _ _⟩

theorem firstMillis_ceilMillis (t : Instant) : FirstMillis t (ceilMillis t) := by
  refine ⟨⟨millisecond_dvd_ceilMillis t, le_ceilMillis t⟩, ?_⟩
  rintro u ⟨⟨k, rfl⟩, hu⟩
  unfold ceilMillis millisecond Instant at *
  omega

/-- A whole millisecond is the first that is not before it. -/
theorem ceilMillis_of_dvd {t : Instant} (h : (millisecond : Int) ∣ t) : ceilMillis t = t := by
  obtain ⟨k, rfl⟩ := h
  unfold ceilMillis millisecond Instant at *
  omega

theorem add?_eq_some {t u : Instant} {d : Duration} :
    t.add? d = some u ↔ t + d = u ∧ u ≤ maxInstant := by
  unfold add?
  split <;> simp <;> lia

theorem le_wake (t : Instant) (d : Duration) : t ≤ wake t d := by
  unfold wake
  split
  · next u h =>
    have := le_ceilMillis u
    have := add?_eq_some.1 h
    lia
  · have := le_ceilMillis (t + farFuture)
    lia

theorem millisecond_dvd_wake (t : Instant) (d : Duration) : (millisecond : Int) ∣ wake t d := by
  unfold wake
  split <;> exact millisecond_dvd_ceilMillis _

/-- A sleep whose end is on the clock. -/
theorem wake_of_le {t : Instant} {d : Duration} (h : t + d ≤ maxInstant) :
    wake t d = ceilMillis (t + d) := by
  simp [wake, add?, h]

/-- A sleep of no length ends at once on a whole millisecond. -/
theorem wake_zero {t : Instant} (h : (millisecond : Int) ∣ t) (ht : t ≤ maxInstant) :
    wake t 0 = t := by
  have hadd : t + ((0 : Duration) : Int) = t := Int.add_zero t
  rw [wake_of_le (by rwa [hadd]), hadd, ceilMillis_of_dvd h]

/-- A sleep until an instant, which may be past. -/
theorem wake_since {now t : Instant} (h : max now t ≤ maxInstant) :
    wake now (t.since now) = ceilMillis (max now t) := by
  have hmax : now + (t.since now : Int) = max now t := by
    unfold since
    lia
  rw [wake_of_le (by rwa [hmax]), hmax]

end Instant

/-- A product that fits on the clock is not cut off. -/
theorem Duration.times_of_onClock {t : Instant} {d : Duration} {n : Nat} (ht : t.OnClock)
    (h : t + (d * n : Nat) ≤ maxInstant) : d.times n = d * n := by
  have hlow := ht.1
  have hle : d * n ≤ maxDuration := by lia
  exact Nat.min_eq_left hle

end Courier
