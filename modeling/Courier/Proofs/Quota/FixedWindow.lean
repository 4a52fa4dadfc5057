import Courier.Proofs.Quota.Burst
import Courier.Proofs.Quota.History

/-!
# A quota for bursts as a limiter of fixed windows

A limiter of fixed windows remembers all instants that it handed out. A request is let through at
once while its window has room for one more of them, and else it is put off to the beginning of
the next window (`Quota.fixedSlot`). A quota for bursts remembers two numbers only, the end of one
window and what is left in it.

If requests come one after the other, and each waits for the instant that the one before it was
given (`Quota.Sequential`), a quota for bursts gives the answers of the limiter of fixed windows
(`Quota.burst_refines_fixed`), whoever asks in between what is left. The tally of a quota for
bursts carries the argument : its front has begun by the time of such a request.

No question may be asked ahead of a request that follows it, because it rolls away the window in
which the request comes.
-/

namespace Courier

namespace Quota

variable (q : Quota)

/-- The instant that a limiter of fixed windows hands out after some others. -/
def fixedSlot (start : Instant) (given : List Instant) (now : Instant) : Instant :=
  let k := now.since start / q.window
  if q.load start k given < max q.events 1 then now else start + (k + 1) * q.window

/-- The instants that a limiter of fixed windows hands out to the requests among some calls. -/
def fixedAnswers (start : Instant) (given : List Instant) : List Op → List Instant
  | [] => []
  | .next now :: ops =>
    q.fixedSlot start given now :: fixedAnswers start (given ++ [q.fixedSlot start given now]) ops
  | _ :: ops => fixedAnswers start given ops

/-- Requests and questions that come one after the other, not before `now`, and the requests among
them not before the instant that the last one was given, which is `free` at first. -/
def Sequential (w : Window) (now free : Instant) : List Op → Prop
  | [] => True
  | .report t :: ops => now ≤ t ∧ Sequential (q.report w t).2 t free ops
  | .next t :: ops => now ≤ t ∧ free ≤ t ∧
      Sequential (q.next w t).2 t ((q.next w t).1.getD t) ops
  | .update .. :: _ => False

instance : ∀ (w : Window) (now free : Instant) (ops : List Op),
    Decidable (q.Sequential w now free ops)
  | _, _, _, [] => inferInstanceAs (Decidable True)
  | w, _, free, .report t :: ops =>
    have := instDecidableSequential (q.report w t).2 t free ops
    inferInstanceAs (Decidable (_ ∧ _))
  | w, _, _, .next t :: ops =>
    have := instDecidableSequential (q.next w t).2 t ((q.next w t).1.getD t) ops
    inferInstanceAs (Decidable (_ ∧ _ ∧ _))
  | _, _, _, .update .. :: _ => inferInstanceAs (Decidable False)

/-- An instant is in the first window, or the clock shows the end of a window that begins then. -/
def Shown (start t : Instant) : Prop :=
  start + q.window ≤ t → t + q.window ≤ maxInstant

instance (start : Instant) : DecidablePred (q.Shown start) :=
  fun _ => inferInstanceAs (Decidable (_ → _))

/-- A call comes at most 2^63 nanoseconds after the start, and not when the clock is about to
end. -/
def Early (start : Instant) (op : Op) : Prop :=
  op.instant ≤ start + 2 ^ 63 ∧ q.Shown start op.instant

instance (start : Instant) : DecidablePred (q.Early start) :=
  fun _ => inferInstanceAs (Decidable (_ ∧ _))

variable {q} {start now now' free : Instant} {w : Window} {given : List Instant} {front k : Nat}

/-! ## The window of an instant -/

theorem InWindow.since_div (h : q.InWindow start k now) : now.since start / q.window = k := by
  have hlow := h.1
  have hhigh := h.2
  have hpos : (0 : Int) ≤ k * q.window :=
    Int.mul_nonneg (Int.natCast_nonneg _) (Int.natCast_nonneg _)
  have hsince : (now.since start : Int) = now - start := by
    unfold Instant.since
    lia
  refine Nat.div_eq_of_lt_le ?_ ?_
  · have : ((k * q.window : Nat) : Int) ≤ now.since start := by push_cast; lia
    exact Int.ofNat_le.1 this
  · have : (now.since start : Int) < ((k + 1) * q.window : Nat) := by push_cast; lia
    exact Int.ofNat_lt.1 this

theorem fixedSlot_of_lt (hin : q.InWindow start k now)
    (hroom : q.load start k given < max q.events 1) : q.fixedSlot start given now = now := by
  unfold fixedSlot
  simp only [hin.since_div]
  exact if_pos hroom

theorem fixedSlot_of_le (hin : q.InWindow start k now)
    (hfull : max q.events 1 ≤ q.load start k given) :
    q.fixedSlot start given now = start + (k + 1) * q.window := by
  unfold fixedSlot
  simp only [hin.since_div]
  exact if_neg (Nat.not_lt.2 hfull)

/-! ## The tally of sequential calls -/

/-- A call that comes early moves the reset by no more than its greatest step. -/
theorem advance_le_of_early (hreset : start + q.window ≤ w.reset) (hover : w.reset ≤ now)
    (hnow : now ≤ start + 2 ^ 63) :
    q.window * (now.since w.reset / q.window + 1) ≤ Window.maxAdvance := by
  have hlow := Nat.mul_div_le (now.since w.reset) q.window
  have hsince : (now.since w.reset : Int) = now - w.reset := by
    unfold Instant.since
    lia
  have hsum : now.since w.reset + q.window ≤ 2 ^ 63 := by lia
  unfold Window.maxAdvance
  rw [Nat.mul_succ]
  lia

namespace Tally

theorem start_le_reset (h : Tally q start given now w front) : start + q.window ≤ w.reset := by
  have hmul := mul_window_le (q := q) (Nat.zero_le front)
  have := h.reset
  lia

/-- Time goes by within the window that the state counts. -/
theorem mono (h : Tally q start given now w front) (hle : now ≤ now') :
    Tally q start given now' w front where
  reset := h.reset
  limit := h.limit
  left := h.left
  full k hk hnow := h.full k hk (Int.lt_of_le_of_lt hle hnow)
  within := h.within
  empty := h.empty
  opened hnow := h.opened (Int.lt_of_le_of_lt hle hnow)
  bound t ht := (h.bound t ht).imp_left (Int.le_trans · hle)
  ordered := h.ordered

/-- A question what is left moves the front to the present window at most. -/
theorem report (h : Tally q start given now w front) (hq : q.PlainBurst) (hle : now ≤ now')
    (hearly : now' ≤ start + 2 ^ 63) (hshown : q.Shown start now') :
    ∃ front', Tally q start given now' (q.report w now').2 front' := by
  by_cases hnow : now' < w.reset
  · have hroll : w.roll? q.window now' = some w := if_pos (.inl hnow)
    exact ⟨front, by simpa only [Quota.report, hroll] using h.mono hle⟩
  · have hover := Int.not_lt.1 hnow
    obtain ⟨n, hn, hafter, hbefore, hroll⟩ := Window.exists_roll? hq.window_pos hover
      (hshown (Int.le_trans h.start_le_reset hover))
      (advance_le_of_early h.start_le_reset hover hearly)
    have hreset := h.reset
    have hmul : ∀ {j}, j < front + n → start + (j + 1) * q.window ≤ now' := fun hj => by
      have := mul_window_le (q := q) (Nat.succ_le_of_lt hj)
      lia
    refine ⟨front + n, ?_⟩
    simp only [Quota.report, hroll]
    exact {
      reset := by simp only; lia
      limit := h.limit
      left := by simp only [h.limit, h.empty (front + n) (by omega), Nat.add_zero]
      full := fun k hk hlate => absurd (hmul hk) (Int.not_le.2 hlate)
      within := fun k _ => h.load_le k
      empty := fun k hk => h.empty k (by omega)
      opened := fun hlate => by
        have := hmul (j := front + n - 1) (by omega)
        lia
      bound := fun u hu => by
        rcases h.bound u hu with hu | hu <;> exact .inl (by lia)
      ordered := h.ordered }

/-- A request after all instants handed out does not come before the front. -/
theorem front_le (h : Tally q start given now w front) (hle : now ≤ now')
    (hfree : ∀ u ∈ given, u ≤ now') : start + front * q.window ≤ now' :=
  Int.not_lt.1 fun hearly =>
    absurd (hfree _ (h.opened (Int.lt_of_le_of_lt hle hearly))) (Int.not_le.2 hearly)

/-- A window after the front has room. -/
theorem fixedSlot_of_over (h : Tally q start given now w front) (hq : q.PlainBurst)
    (hover : w.reset ≤ now') : q.fixedSlot start given now' = now' := by
  have hreset := h.reset
  have hfirst := h.start_le_reset
  have hstart : start ≤ now' := by lia
  obtain ⟨k, hk⟩ := exists_inWindow hq.window_pos hstart
  have hlater : front < k := by
    refine Nat.lt_of_not_le fun hkf => ?_
    have hmul := mul_window_le (q := q) hkf
    have := hk.2
    lia
  refine fixedSlot_of_lt hk ?_
  rw [h.empty k hlater]
  exact Nat.lt_of_lt_of_le Nat.zero_lt_one (Nat.le_max_right _ _)

/-- A request is put off to a window that nothing was handed out in. -/
theorem load_le_of_deferred (h : Tally q start given now w front) (hq : q.PlainBurst) (k : Nat) :
    q.load start k (given ++ [w.reset]) ≤ q.events := by
  have hreset := h.reset
  have hpos := hq.window_pos
  have hin : q.InWindow start (front + 1) w.reset := ⟨by lia, by lia⟩
  by_cases hk : q.InWindow start k w.reset
  · rw [load_concat_of_inWindow hk, hk.unique hin, h.empty _ (Nat.lt_succ_self _)]
    exact hq.events_pos
  · rw [load_concat_of_not_inWindow hk]
    exact h.load_le k

/-- A request after all instants handed out is answered as by a limiter of fixed windows. The tally
goes on, unless the clock is about to end by the time of the answer. -/
theorem next_fixed (h : Tally q start given now w front) (hq : q.PlainBurst) (hle : now ≤ now')
    (hfree : ∀ u ∈ given, u ≤ now') (hearly : now' ≤ start + 2 ^ 63)
    (hshown : q.Shown start now') :
    let slot := q.fixedSlot start given now'
    (q.next w now').1 = some slot ∧ now' ≤ slot ∧
      (∀ k, q.load start k (given ++ [slot]) ≤ q.events) ∧
      (q.Shown start slot →
        ∃ front', Tally q start (given ++ [slot]) now' (q.next w now').2 front') := by
  have hevents : max q.events 1 = q.events := Nat.max_eq_left hq.events_pos
  have hreset := h.reset
  have hfront := h.front_le hle hfree
  by_cases hnow : now' < w.reset
  · have hin : q.InWindow start front now' := ⟨hfront, hreset ▸ hnow⟩
    have hcount := h.left
    rcases Nat.eq_zero_or_pos w.remaining with hleft | hleft
    · have hslot : q.fixedSlot start given now' = w.reset :=
        (fixedSlot_of_le hin (by omega)).trans hreset.symm
      have hnext : (q.next w now').1 = some w.reset := by
        have hw' : q.window ≠ 0 := Nat.ne_of_gt hq.window_pos
        simp [next, hw', Window.roll?, hnow, hq.pacing, burst, hleft, cap, hq.uncapped]
      rw [hslot]
      refine ⟨hnext, Int.le_of_lt hnow, h.load_le_of_deferred hq, fun hlate => ⟨front + 1, ?_⟩⟩
      have hfits : q.Fits w now' := by
        unfold Fits
        rw [if_neg (Int.not_le.2 hnow)]
        exact fun _ => hlate h.start_le_reset
      exact (h.next_of_none_left hq hle hnow hleft hfits).2
    · have hslot : q.fixedSlot start given now' = now' := fixedSlot_of_lt hin (by omega)
      obtain ⟨hnext, h'⟩ := h.next_of_left hq hle hfront hnow hleft
      rw [hslot]
      exact ⟨hnext, Int.le_refl _, h'.load_le, fun _ => ⟨front, h'⟩⟩
  · have hover := Int.not_lt.1 hnow
    have hfits : q.Fits w now' := by
      unfold Fits
      rw [if_pos hover]
      exact ⟨hshown (Int.le_trans h.start_le_reset hover),
        advance_le_of_early h.start_le_reset hover hearly⟩
    obtain ⟨hnext, front', h'⟩ := h.next_of_over hq hle hover hfits
    rw [h.fixedSlot_of_over hq hover]
    exact ⟨hnext, Int.le_refl _, h'.load_le, fun _ => ⟨front', h'⟩⟩

end Tally

/-! ## A quota of none -/

/-- The quota as it is read : a quota of none is one of one. -/
def atLeastOne (q : Quota) : Quota :=
  { q with events := max q.events 1 }

theorem max_atLeastOne : max q.atLeastOne.events 1 = max q.events 1 :=
  Nat.max_eq_left (Nat.le_max_right _ _)

theorem begin_atLeastOne : q.atLeastOne.begin? start = q.begin? start := by
  simp only [begin?, max_atLeastOne]
  rfl

theorem fixedSlot_atLeastOne :
    q.atLeastOne.fixedSlot start given now = q.fixedSlot start given now := by
  simp only [fixedSlot, max_atLeastOne]
  rfl

theorem fixedAnswers_atLeastOne {ops : List Op} :
    q.atLeastOne.fixedAnswers start given ops = q.fixedAnswers start given ops := by
  induction ops generalizing given with
  | nil => rfl
  | cons op ops ih => cases op <;> simp only [fixedAnswers, fixedSlot_atLeastOne, ih]

theorem answers_atLeastOne {ops : List Op} : q.atLeastOne.answers w ops = q.answers w ops := by
  induction ops generalizing w with
  | nil => rfl
  | cons op ops ih => cases op <;> (simp only [answers, ih]; rfl)

theorem sequential_atLeastOne {ops : List Op} :
    q.atLeastOne.Sequential w now free ops ↔ q.Sequential w now free ops := by
  induction ops generalizing w now free with
  | nil => rfl
  | cons op ops ih =>
    cases op with
    | report => simp only [Sequential, ih]; rfl
    | next => simp only [Sequential, ih]; rfl
    | update => rfl

/-! ## Any number of calls -/

/-- Nothing more is asked for if the clock is about to end by the last instant handed out. -/
theorem answers_of_late (given : List Instant) (hlate : ¬q.Shown start free) :
    ∀ {ops : List Op} {w : Window} {now : Instant}, q.Sequential w now free ops →
      (∀ op ∈ ops, q.Early start op) →
      q.answers w ops = [] ∧ q.fixedAnswers start given ops = []
  | [], _, _, _, _ => ⟨rfl, rfl⟩
  | .report _ :: _, _, _, hseq, hearly =>
    (answers_of_late given hlate hseq.2 (List.forall_mem_cons.1 hearly).2 :)
  | .next t :: ops, _, _, hseq, hearly => by
    have hshown := (List.forall_mem_cons.1 hearly).1.2
    have hfree := hseq.2.1
    unfold Shown Op.instant at *
    lia
  | .update .. :: _, _, _, hseq, _ => hseq.elim

/-- From a tally on, sequential requests are answered as by a limiter of fixed windows, and no
window holds more than its quota. -/
theorem Tally.answers_fixed (hq : q.PlainBurst) :
    ∀ {ops : List Op} {given : List Instant} {now free : Instant} {w : Window} {front : Nat},
      Tally q start given now w front → (∀ u ∈ given, u ≤ free) → q.Sequential w now free ops →
      (∀ op ∈ ops, q.Early start op) →
      q.answers w ops = (q.fixedAnswers start given ops).map some ∧
        ∀ k, q.load start k (given ++ q.fixedAnswers start given ops) ≤ q.events
  | [], given, _, _, _, _, h, _, _, _ =>
    ⟨rfl, fun k => by simpa only [fixedAnswers, List.append_nil] using h.load_le k⟩
  | .report t :: ops, _, _, _, _, _, h, hgiven, hseq, hearly => by
    obtain ⟨hop, hops⟩ := List.forall_mem_cons.1 hearly
    obtain ⟨front', h'⟩ := h.report hq hseq.1 hop.1 hop.2
    exact h'.answers_fixed hq hgiven hseq.2 hops
  | .next t :: ops, given, _, _, w, _, h, hgiven, hseq, hearly => by
    obtain ⟨hop, hops⟩ := List.forall_mem_cons.1 hearly
    obtain ⟨hle, hfree, hseq⟩ := hseq
    have hgiven' : ∀ u ∈ given, u ≤ t := fun u hu => Int.le_trans (hgiven u hu) hfree
    obtain ⟨hnext, hslot, hload, hgoes⟩ := h.next_fixed hq hle hgiven' hop.1 hop.2
    generalize hs : q.fixedSlot start given t = slot at hnext hslot hload hgoes
    have hanswers : q.fixedAnswers start given (.next t :: ops) =
        slot :: q.fixedAnswers start (given ++ [slot]) ops := by
      rw [fixedAnswers, hs]
    rw [hnext] at hseq
    rw [answers, hanswers, hnext, List.append_cons given slot (q.fixedAnswers _ _ ops)]
    by_cases hlate : q.Shown start slot
    · obtain ⟨front', h'⟩ := hgoes hlate
      have hlast : ∀ u ∈ given ++ [slot], u ≤ slot := fun u hu => by
        rcases List.mem_append.1 hu with hu | hu
        · exact Int.le_trans (hgiven' u hu) hslot
        · exact Int.le_of_eq (List.mem_singleton.1 hu)
      obtain ⟨heq, hwithin⟩ := h'.answers_fixed hq hlast hseq hops
      exact ⟨by rw [heq, List.map_cons], hwithin⟩
    · obtain ⟨hnone, hfixed⟩ :=
        answers_of_late (given ++ [slot]) hlate hseq hops
      rw [hnone, hfixed, List.append_nil]
      exact ⟨rfl, hload⟩
  | .update .. :: _, _, _, _, _, _, _, _, hseq, _ => hseq.elim

/-- A quota for bursts without a bound on its delays gives sequential requests the answers of a
limiter of fixed windows. So no window holds more than its quota, and a request is put off only
if its window is full. -/
theorem burst_refines_fixed (hpacing : q.pacing = .burst) (huncapped : q.maxDelay = none)
    (hwindow : 0 < q.window) (hbegin : q.begin? start = some w) {ops : List Op}
    (hseq : q.Sequential w start start ops) (hearly : ∀ op ∈ ops, q.Early start op) :
    q.answers w ops = (q.fixedAnswers start [] ops).map some ∧
      ∀ k, q.load start k (q.fixedAnswers start [] ops) ≤ max q.events 1 := by
  have hq : q.atLeastOne.PlainBurst :=
    ⟨hpacing, huncapped, hwindow, Nat.lt_of_lt_of_le Nat.zero_lt_one (Nat.le_max_right _ _)⟩
  have htally : Tally q.atLeastOne start [] start w 0 :=
    Tally.zero hq (begin_atLeastOne.trans hbegin)
  obtain ⟨hanswers, hwithin⟩ := htally.answers_fixed hq (List.forall_mem_nil _)
    (sequential_atLeastOne.2 hseq) hearly
  rw [answers_atLeastOne, fixedAnswers_atLeastOne] at hanswers
  rw [fixedAnswers_atLeastOne] at hwithin
  exact ⟨hanswers, hwithin⟩

/-- A quota of two puts off the third request, which then is the first of its window. -/
theorem burst_refines_fixed_two :
    let q : Quota := { events := 2, window := 100 }
    let w : Window := { limit := 2, remaining := 2, reset := 100, last := none }
    let ops : List Op :=
      [.next 0, .next 0, .next 10, .report 50, .next 130, .next 140, .report 420, .next 450]
    q.begin? 0 = some w ∧ q.Sequential w 0 0 ops ∧ (∀ op ∈ ops, q.Early 0 op) ∧
      q.answers w ops = (q.fixedAnswers 0 [] ops).map some ∧
      q.fixedAnswers 0 [] ops = [0, 0, 100, 130, 200, 450] := by
  intro q w ops
  have hbegin : q.begin? 0 = some w := by decide
  have hseq : q.Sequential w 0 0 ops := by decide
  have hearly : ∀ op ∈ ops, q.Early 0 op := by decide
  exact ⟨hbegin, hseq, hearly, (burst_refines_fixed rfl rfl (by decide) hbegin hseq hearly).1,
    by decide⟩

end Quota

end Courier
