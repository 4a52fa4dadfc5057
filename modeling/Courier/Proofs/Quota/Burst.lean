import Courier.Limiter.Quota
import Courier.Proofs.Quota.Window

/-!
# Bursts

A quota for bursts is meant to hand out at most `events` instants in each window. A request that
finds nothing left is put off to the window after the present one, and from then on the state
counts what is left in that window, which has not begun. A request that comes before it begins
is let through at once, and charged to a window that it is not sent in.

The windows up to the one that the state counts are full by then (`Quota.Tally`). So a quota for
bursts is kept exactly if no request is let through behind one that was put off, that is, if
the instants handed out never go back (`Quota.burst_within_iff`).
-/

namespace Courier

namespace Quota

open Instant (OnClock)

variable (q : Quota)

/-- A quota for bursts whose delays have no bound. -/
structure PlainBurst : Prop where
  pacing : q.pacing = .burst
  uncapped : q.maxDelay = none
  window_pos : 0 < q.window
  events_pos : 0 < q.events

/-- The answers to requests that come at instants, one after the other. -/
def serve (w : Window) : List Instant → List (Option Instant)
  | [] => []
  | now :: later => (q.next w now).1 :: serve (q.next w now).2 later

/-- No sum is cut off when a request comes at an instant : the clock shows the end of the window to
which the state rolls or which the request opens. -/
def Fits (w : Window) (now : Instant) : Prop :=
  if w.reset ≤ now then
    now + q.window ≤ maxInstant ∧
      q.window * (now.since w.reset / q.window + 1) ≤ Window.maxAdvance
  else w.remaining = 0 → w.reset + q.window ≤ maxInstant

instance (w : Window) (now : Instant) : Decidable (q.Fits w now) :=
  inferInstanceAs (Decidable (if w.reset ≤ now then _ ∧ _ else _ → _))

/-- No sum is cut off while requests come at instants. -/
def AllFit (w : Window) : List Instant → Prop
  | [] => True
  | now :: later => q.Fits w now ∧ AllFit (q.next w now).2 later

instance : ∀ (w : Window) (calls : List Instant), Decidable (q.AllFit w calls)
  | _, [] => inferInstanceAs (Decidable True)
  | w, now :: later =>
    have := instDecidableAllFit (q.next w now).2 later
    inferInstanceAs (Decidable (_ ∧ _))

/-- An instant lies in a window, counted from a start. -/
def InWindow (start : Instant) (k : Nat) (t : Instant) : Prop :=
  start + k * q.window ≤ t ∧ t < start + (k + 1) * q.window

instance (start : Instant) (k : Nat) : DecidablePred (q.InWindow start k) :=
  fun _ => inferInstanceAs (Decidable (_ ∧ _))

/-- How many of some instants lie in a window. -/
def load (start : Instant) (k : Nat) (slots : List Instant) : Nat :=
  slots.countP (q.InWindow start k)

variable {q} {start now t : Instant} {w : Window} {given : List Instant}

/-! ## Windows -/

theorem InWindow.unique {j k : Nat} (hj : q.InWindow start j t) (hk : q.InWindow start k t) :
    j = k := by
  have hjk : (j : Int) * q.window < (k + 1) * q.window := by
    have := hj.1
    have := hk.2
    lia
  have hkj : (k : Int) * q.window < (j + 1) * q.window := by
    have := hk.1
    have := hj.2
    lia
  have hpos : (0 : Int) ≤ q.window := Int.natCast_nonneg _
  have hj' := Int.lt_of_mul_lt_mul_right hjk hpos
  have hk' := Int.lt_of_mul_lt_mul_right hkj hpos
  omega

theorem exists_inWindow (hw : 0 < q.window) (h : start ≤ t) : ∃ k, q.InWindow start k t := by
  have hlow := Nat.div_mul_le_self (t.since start) q.window
  have hhigh := Nat.lt_mul_div_succ (t.since start) hw
  refine ⟨t.since start / q.window, ?_, ?_⟩ <;> unfold Instant.since at * <;> lia

theorem load_append (k : Nat) (slots slots' : List Instant) :
    q.load start k (slots ++ slots') = q.load start k slots + q.load start k slots' :=
  List.countP_append

theorem load_concat_of_inWindow {k : Nat} (h : q.InWindow start k t) (slots : List Instant) :
    q.load start k (slots ++ [t]) = q.load start k slots + 1 := by
  simp [load, h]

theorem load_concat_of_not_inWindow {k : Nat} (h : ¬q.InWindow start k t) (slots : List Instant) :
    q.load start k (slots ++ [t]) = q.load start k slots := by
  simp [load, h]

/-! ## One request -/

/-- What a request does that comes while something is left in the window. -/
theorem next_of_left (hq : q.PlainBurst)
    (hnow : now < w.reset) (hleft : 0 < w.remaining) :
    q.next w now = (some now, { w with remaining := w.remaining - 1, last := some now }) := by
  have hw' : q.window ≠ 0 := Nat.ne_of_gt hq.window_pos
  simp [next, hw', Window.roll?, hnow, hq.pacing, burst, hleft, cap, hq.uncapped]

/-- What a request does that comes when nothing is left in the window. -/
theorem next_of_none_left (hq : q.PlainBurst)
    (hnow : now < w.reset) (hleft : w.remaining = 0) (hfits : q.Fits w now) :
    q.next w now = (some w.reset, { w with
      reset := w.reset + q.window, remaining := w.limit - 1, last := some w.reset }) := by
  have hw' : q.window ≠ 0 := Nat.ne_of_gt hq.window_pos
  have hreset : w.reset + q.window ≤ maxInstant := by
    unfold Fits at hfits
    rw [if_neg (by lia)] at hfits
    exact hfits hleft
  simp [next, hw', Window.roll?, hnow, hq.pacing, burst, hleft, cap, hq.uncapped, Instant.add?,
    hreset]

/-- What a request does that comes when the window is over. The window in which it comes is a
whole number of windows later. -/
theorem next_of_over (hq : q.PlainBurst)
    (hnow : w.reset ≤ now) (hlimit : 0 < w.limit) (hfits : q.Fits w now) :
    ∃ n : Nat, now < w.reset + n * q.window ∧ w.reset + n * q.window ≤ now + q.window ∧
      q.next w now = (some now, { w with
        reset := w.reset + n * q.window, remaining := w.limit - 1, last := some now }) := by
  have hw' : q.window ≠ 0 := Nat.ne_of_gt hq.window_pos
  unfold Fits at hfits
  rw [if_pos hnow] at hfits
  obtain ⟨n, -, hafter, hbefore, hroll⟩ :=
    Window.exists_roll? hq.window_pos hnow hfits.1 hfits.2
  refine ⟨n, hafter, hbefore, ?_⟩
  simp [next, hw', hroll, hq.pacing, burst, hlimit, cap, hq.uncapped]

/-- Requests are answered as long as no sum is cut off. -/
theorem exists_next (hq : q.PlainBurst)
    (hlimit : 0 < w.limit) (hfits : q.Fits w now) :
    ∃ slot, (q.next w now).1 = some slot ∧ (q.next w now).2.limit = w.limit := by
  by_cases hnow : now < w.reset
  · rcases Nat.eq_zero_or_pos w.remaining with hleft | hleft
    · exact ⟨_, by rw [next_of_none_left hq hnow hleft hfits]; exact ⟨rfl, rfl⟩⟩
    · exact ⟨_, by rw [next_of_left hq hnow hleft]; exact ⟨rfl, rfl⟩⟩
  · obtain ⟨n, -, -, hnext⟩ := next_of_over hq (Int.not_lt.1 hnow) hlimit hfits
    exact ⟨_, by rw [hnext]; exact ⟨rfl, rfl⟩⟩

theorem exists_serve (hq : q.PlainBurst) :
    ∀ (calls : List Instant) (w : Window), 0 < w.limit → q.AllFit w calls →
      ∃ slots : List Instant, q.serve w calls = slots.map some
  | [], _, _, _ => ⟨[], rfl⟩
  | now :: later, w, hlimit, hfits => by
    obtain ⟨slot, hslot, hlimit'⟩ := exists_next hq hlimit hfits.1
    obtain ⟨slots, hslots⟩ := exists_serve hq later (q.next w now).2 (by omega) hfits.2
    exact ⟨slot :: slots, by rw [serve, hslot, hslots]; rfl⟩

/-! ## The tally of the windows -/

/-- What the state says of the instants handed out so far. It counts what is left in one window, the
front. Those before it are full, back to the window of the last request, and those after it are
empty. If the front has not begun by the time of the last request, then because a request was
put off to its beginning. -/
structure Tally (q : Quota) (start : Instant) (given : List Instant) (now : Instant) (w : Window)
    (front : Nat) : Prop where
  reset : w.reset = start + (front + 1) * q.window
  limit : w.limit = q.events
  left : w.remaining + q.load start front given = q.events
  full : ∀ k < front, now < start + (k + 1) * q.window → q.load start k given = q.events
  within : ∀ k < front, q.load start k given ≤ q.events
  empty : ∀ k, front < k → q.load start k given = 0
  opened : now < start + front * q.window → start + front * q.window ∈ given
  bound : ∀ t ∈ given, t ≤ now ∨ t ≤ start + front * q.window
  ordered : given.Pairwise (· ≤ ·)

namespace Tally

variable {front : Nat}

/-- No window holds more than its quota. -/
theorem load_le (h : Tally q start given now w front) (k : Nat) :
    q.load start k given ≤ q.events := by
  rcases Nat.lt_trichotomy k front with hk | rfl | hk
  · exact h.within k hk
  · have := h.left
    omega
  · rw [h.empty k hk]
    exact Nat.zero_le _

/-- At the beginning. -/
theorem zero (hq : q.PlainBurst) (hbegin : q.begin? start = some w) :
    Tally q start [] start w 0 := by
  obtain ⟨reset, hreset, rfl⟩ := Option.map_eq_some_iff.1 hbegin
  have hevents : max q.events 1 = q.events := Nat.max_eq_left hq.events_pos
  have hreset := (Instant.add?_eq_some.1 hreset).1
  constructor <;> simp [load, hevents, ← hreset]

variable {now' : Instant} {w' : Window} {front' : Nat}

theorem mul_window_le {j k : Nat} (h : j ≤ k) : (j : Int) * q.window ≤ k * q.window :=
  Int.mul_le_mul_of_nonneg_right (Int.ofNat_le.2 h) (Int.natCast_nonneg _)

/-- One more instant is handed out, in a front that may have moved on. -/
theorem concat (h : Tally q start given now w front) (hle : now ≤ now') (hfront : front ≤ front')
    (ht : q.InWindow start front' t) (hlast : ∀ u ∈ given, u ≤ t)
    (hreset : w'.reset = start + (front' + 1) * q.window) (hlimit : w'.limit = q.events)
    (hleft : w'.remaining + (q.load start front' given + 1) = q.events)
    (hfull : ∀ k < front', now' < start + (k + 1) * q.window → q.load start k given = q.events)
    (hopened : t ≤ now' ∨ t = start + front' * q.window) :
    Tally q start (given ++ [t]) now' w' front' where
  reset := hreset
  limit := hlimit
  left := by rwa [load_concat_of_inWindow ht]
  full k hk hnow := by
    have hne : ¬q.InWindow start k t := fun hin => Nat.ne_of_lt hk (hin.unique ht)
    rw [load_concat_of_not_inWindow hne, hfull k hk hnow]
  within k hk := by
    have hne : ¬q.InWindow start k t := fun hin => Nat.ne_of_lt hk (hin.unique ht)
    rw [load_concat_of_not_inWindow hne]
    exact h.load_le k
  empty k hk := by
    have hne : ¬q.InWindow start k t := fun hin => Nat.ne_of_gt hk (hin.unique ht)
    rw [load_concat_of_not_inWindow hne, h.empty k (by omega)]
  opened hnow := by
    have hfirst := ht.1
    have heq : t = start + front' * q.window := hopened.resolve_left (by lia)
    simp [heq]
  bound u hu := by
    rcases List.mem_append.1 hu with hu | hu
    · have hmul := mul_window_le (q := q) hfront
      rcases h.bound u hu with hu | hu
      · exact .inl (Int.le_trans hu hle)
      · exact .inr (by lia)
    · rw [List.mem_singleton.1 hu]
      exact hopened.imp_right Int.le_of_eq
  ordered := by
    refine List.pairwise_append.2 ⟨h.ordered, List.pairwise_singleton _ _, fun u hu v hv => ?_⟩
    rw [List.mem_singleton.1 hv]
    exact hlast u hu

/-- A request that comes in the front while something is left there. -/
theorem next_of_left (h : Tally q start given now w front) (hq : q.PlainBurst) (hle : now ≤ now')
    (hfront : start + front * q.window ≤ now') (hnow : now' < w.reset) (hleft : 0 < w.remaining) :
    (q.next w now').1 = some now' ∧
      Tally q start (given ++ [now']) now' (q.next w now').2 front := by
  rw [Quota.next_of_left hq hnow hleft]
  have hin : q.InWindow start front now' := ⟨hfront, h.reset ▸ hnow⟩
  refine ⟨rfl, h.concat hle (Nat.le_refl _) hin ?_ h.reset h.limit ?_ ?_ (.inl (Int.le_refl _))⟩
  · intro u hu
    rcases h.bound u hu with hu | hu <;> lia
  · have := h.left
    simp only
    omega
  · intro k hk hover
    have hmul := mul_window_le (q := q) (Nat.succ_le_of_lt hk)
    lia

/-- A request that is put off to the window after the front. -/
theorem next_of_none_left (h : Tally q start given now w front) (hq : q.PlainBurst)
    (hle : now ≤ now') (hnow : now' < w.reset) (hleft : w.remaining = 0) (hfits : q.Fits w now') :
    (q.next w now').1 = some w.reset ∧
      Tally q start (given ++ [w.reset]) now' (q.next w now').2 (front + 1) := by
  rw [Quota.next_of_none_left hq hnow hleft hfits]
  have hreset := h.reset
  have hpos := hq.window_pos
  have hin : q.InWindow start (front + 1) w.reset := ⟨by lia, by lia⟩
  refine ⟨rfl, h.concat hle (Nat.le_succ _) hin ?_ (by lia) h.limit ?_ ?_ (.inr (by lia))⟩
  · intro u hu
    rcases h.bound u hu with hu | hu <;> lia
  · have := h.empty (front + 1) (Nat.lt_succ_self _)
    have := h.limit
    have := hq.events_pos
    simp only
    omega
  · intro k hk hover
    rcases Nat.lt_succ_iff_lt_or_eq.1 hk with hk | rfl
    · exact h.full k hk (by lia)
    · have := h.left
      omega

/-- A request that comes after the front. -/
theorem next_of_over (h : Tally q start given now w front) (hq : q.PlainBurst)
    (hle : now ≤ now') (hnow : w.reset ≤ now') (hfits : q.Fits w now') :
    (q.next w now').1 = some now' ∧
      ∃ front', Tally q start (given ++ [now']) now' (q.next w now').2 front' := by
  have hreset := h.reset
  have hlimit := h.limit
  have hpos := hq.events_pos
  obtain ⟨n, hafter, hbefore, hnext⟩ := Quota.next_of_over hq hnow (by omega) hfits
  have hn : 0 < n := by
    rcases Nat.eq_zero_or_pos n with rfl | hn
    · lia
    · exact hn
  rw [hnext]
  have hin : q.InWindow start (front + n) now' := ⟨by lia, by lia⟩
  refine ⟨rfl, front + n, h.concat hle (Nat.le_add_right _ _) hin ?_ (by lia) hlimit ?_ ?_
    (.inl (Int.le_refl _))⟩
  · intro u hu
    rcases h.bound u hu with hu | hu <;> lia
  · have := h.empty (front + n) (by omega)
    simp only
    omega
  · intro k hk hover
    have hmul := mul_window_le (q := q) (Nat.succ_le_of_lt hk)
    lia

/-- A request that comes before the front, and is let through, goes to a window that is full. The
beginning of the front was handed out before it. -/
theorem overrun (h : Tally q start given now w front) (hq : q.PlainBurst) (hle : now ≤ now')
    (hstart : start ≤ now') (hearly : now' < start + front * q.window) :
    (∃ k, q.events < q.load start k (given ++ [now'])) ∧ ∃ u ∈ given, now' < u := by
  refine ⟨?_, _, h.opened (Int.lt_of_le_of_lt hle hearly), hearly⟩
  obtain ⟨k, hk⟩ := exists_inWindow hq.window_pos hstart
  have hbefore : k < front := by
    refine Nat.lt_of_not_le fun hfk => ?_
    have hmul := mul_window_le (q := q) hfk
    have := hk.1
    lia
  have hfull := h.full k hbefore (Int.lt_of_le_of_lt hle hk.2)
  exact ⟨k, by rw [load_concat_of_inWindow hk]; omega⟩

/-- From a tally on, the quota is kept exactly if the instants handed out never go back. -/
theorem within_iff (hq : q.PlainBurst) :
    ∀ (calls : List Instant) {given : List Instant} {now : Instant} {w : Window} {front : Nat}
      {slots : List Instant}, Tally q start given now w front → start ≤ now →
      (now :: calls).Pairwise (· ≤ ·) → q.AllFit w calls → q.serve w calls = slots.map some →
      ((∀ k, q.load start k (given ++ slots) ≤ q.events) ↔ (given ++ slots).Pairwise (· ≤ ·))
  | [], given, _, _, _, slots, h, _, _, _, hserve => by
    have hslots : slots = [] := List.map_eq_nil_iff.1 hserve.symm
    rw [hslots, List.append_nil]
    exact ⟨fun _ => h.ordered, fun _ => h.load_le⟩
  | now' :: later, given, now, w, front, slots, h, hstart, hcalls, hfits, hserve => by
    obtain ⟨slot, slots, rfl⟩ : ∃ slot slots', slots = slot :: slots' := by
      cases slots with
      | nil => cases hserve
      | cons slot slots => exact ⟨slot, slots, rfl⟩
    obtain ⟨hslot, hslots⟩ := List.cons.inj hserve
    have hle : now ≤ now' := List.rel_of_pairwise_cons hcalls (by simp)
    have hstart' := Int.le_trans hstart hle
    have hlater := hcalls.of_cons
    rw [List.append_cons]
    by_cases hnow : now' < w.reset
    · rcases Nat.eq_zero_or_pos w.remaining with hleft | hleft
      · obtain ⟨hnext, h'⟩ := h.next_of_none_left hq hle hnow hleft hfits.1
        obtain rfl : slot = w.reset := by simpa [hnext] using hslot.symm
        exact within_iff hq later h' hstart' hlater hfits.2 hslots
      · by_cases hfront : start + front * q.window ≤ now'
        · obtain ⟨hnext, h'⟩ := h.next_of_left hq hle hfront hnow hleft
          obtain rfl : slot = now' := by simpa [hnext] using hslot.symm
          exact within_iff hq later h' hstart' hlater hfits.2 hslots
        · -- Neither side holds from here on, whatever comes later.
          obtain rfl : slot = now' := by
            simpa [Quota.next_of_left hq hnow hleft] using hslot.symm
          obtain ⟨⟨k, hover⟩, u, hu, hback⟩ := h.overrun hq hle hstart' (Int.not_le.1 hfront)
          refine iff_of_false (fun hload => ?_) fun hordered => ?_
          · have := hload k
            rw [load_append] at this
            omega
          · have hmem : u ∈ given ++ [slot] := by simp [hu]
            have hgiven := (List.pairwise_append.1 hordered).1
            have := (List.pairwise_append.1 hgiven).2.2 u hu slot (by simp)
            lia
    · obtain ⟨hnext, front', h'⟩ := h.next_of_over hq hle (Int.not_lt.1 hnow) hfits.1
      obtain rfl : slot = now' := by simpa [hnext] using hslot.symm
      exact within_iff hq later h' hstart' hlater hfits.2 hslots

end Tally

/-! ## Any number of requests -/

/-- A quota for bursts that starts fresh answers every request, and it hands out too many instants
in some window exactly if one of them is before another that it handed out earlier. -/
theorem burst_within_iff (hq : q.PlainBurst) (hbegin : q.begin? start = some w)
    (calls : List Instant) (hcalls : calls.Pairwise (· ≤ ·)) (hstart : ∀ t ∈ calls, start ≤ t)
    (hfits : q.AllFit w calls) :
    ∃ slots : List Instant, q.serve w calls = slots.map some ∧
      ((∀ k, q.load start k slots ≤ q.events) ↔ slots.Pairwise (· ≤ ·)) := by
  have h := Tally.zero hq hbegin
  have hlimit : 0 < w.limit := by
    rw [h.limit]
    exact hq.events_pos
  obtain ⟨slots, hslots⟩ := exists_serve hq calls w hlimit hfits
  exact ⟨slots, hslots, Tally.within_iff hq calls h (Int.le_refl _)
    (List.pairwise_cons.2 ⟨hstart, hcalls⟩) hfits hslots⟩

/-- A quota of two is kept if two requests come in the window to which a third was put off. -/
theorem burst_within_two :
    let q : Quota := { events := 2, window := 100 }
    let w : Window := { limit := 2, remaining := 2, reset := 100, last := none }
    let calls : List Instant := [0, 0, 0, 100, 100]
    q.PlainBurst ∧ q.begin? 0 = some w ∧ q.AllFit w calls ∧
      ∃ slots, q.serve w calls = slots.map some ∧ slots = [0, 0, 100, 100, 200] ∧
        ∀ k, q.load 0 k slots ≤ q.events := by
  intro q w calls
  have hq : q.PlainBurst := ⟨rfl, rfl, by decide, by decide⟩
  have hbegin : q.begin? 0 = some w := by decide
  have hfits : q.AllFit w calls := by decide
  obtain ⟨slots, hserve, hiff⟩ :=
    burst_within_iff hq hbegin calls (by decide) (by decide) hfits
  have hslots : slots = [0, 0, 100, 100, 200] :=
    (List.map_inj_right fun _ _ => Option.some.inj).1 (hserve.symm.trans (by decide))
  exact ⟨hq, hbegin, hfits, slots, hserve, hslots, hiff.2 (hslots ▸ by decide)⟩

/-- Of four requests at once, to a quota of two, the third is put off to the next window, and the
fourth is let through. -/
theorem burst_not_within :
    let q : Quota := { events := 2, window := 100 }
    let w : Window := { limit := 2, remaining := 2, reset := 100, last := none }
    q.PlainBurst ∧ q.begin? 0 = some w ∧ q.AllFit w [0, 0, 0, 0] ∧
      q.serve w [0, 0, 0, 0] = [some 0, some 0, some 100, some 0] ∧
      ¬∀ k, q.load 0 k [0, 0, 100, 0] ≤ q.events :=
  ⟨⟨rfl, rfl, by decide, by decide⟩, by decide, by decide, by decide,
    fun h => absurd (h 0) (by decide)⟩

end Quota

end Courier
