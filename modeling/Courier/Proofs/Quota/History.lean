import Courier.Limiter.Quota
import Courier.Proofs.Quota.Window
import Mathlib.Algebra.Group.Int.Defs

/-!
# What a quota answers after any history

A quota is asked what is left, asked for instants and told of responses (`Quota.Op`), and the
server may put its reset to any time that the clock shows. Whatever it went through, an instant
that it hands out, or that it asks to send again at, is not before the time of the call, and not
after the longest delay if that is bounded (`Quota.pacing_bounds`).

The argument is about one thing only. As long as all calls are made near the start, the reset is
never more than 2^63 nanoseconds before it (`Quota.Anchored`) : windows only move it forward, and
a server cannot put it before the time of the response. A window that is rolled is then behind
by less than the greatest step of the reset, which so gets past the present time
(`Window.lt_of_roll?`).
-/

namespace Courier

namespace Quota

open Limiter (Refusal)

/-! ## Calls -/

/-- A call of a quota. -/
inductive Op where
  | report (now : Instant)
  | next (now : Instant)
  | update (clock : Clock) (status : Status) (headers : Headers)

/-- The time of a call. -/
def Op.instant : Op → Instant
  | .report now => now
  | .next now => now
  | .update clock _ _ => clock.now

variable (q : Quota)

/-- The state after a call. -/
def after (w : Window) : Op → Window
  | .report now => (q.report w now).2
  | .next now => (q.next w now).2
  | .update clock status headers => (q.update w clock status headers).2

/-- The state after calls, one after the other. -/
def afterAll (w : Window) (ops : List Op) : Window :=
  ops.foldl q.after w

/-- The answers to the requests among some calls. -/
def answers (w : Window) : List Op → List (Option Instant)
  | [] => []
  | .next now :: ops => (q.next w now).1 :: answers (q.next w now).2 ops
  | op :: ops => answers (q.after w op) ops

/-- What a request may do : it is answered, or the clock runs over, and leaves a state. -/
inductive Hands (w : Window) (now : Instant) : Option Instant → Window → Prop where
  | unlimited (hwindow : q.window = 0) : Hands w now (some now) w
  | lost (hroll : w.roll? q.window now = none) : Hands w now none w
  | left {v : Window} (hwindow : 0 < q.window) (hroll : w.roll? q.window now = some v)
      (hpacing : q.pacing = .burst) (hleft : 0 < v.remaining) :
      Hands w now (some (q.cap now now))
        { v with remaining := v.remaining - 1, last := some (q.cap now now) }
  | deferred {v : Window} (hwindow : 0 < q.window) (hroll : w.roll? q.window now = some v)
      (hpacing : q.pacing = .burst) (hleft : v.remaining = 0) :
      Hands w now (some (q.cap now v.reset))
        { v with
          reset := (v.reset.add? q.window).getD v.reset, remaining := v.limit - 1
          last := some (q.cap now v.reset) }
  | unspaced {v : Window} (hroll : w.roll? q.window now = some v)
      (hpacing : q.pacing = .meter) (hslot : q.metered? v now = none) : Hands w now none v
  | spaced {v : Window} {slot : Instant} (hwindow : 0 < q.window)
      (hroll : w.roll? q.window now = some v) (hpacing : q.pacing = .meter)
      (hslot : q.metered? v now = some slot) :
      Hands w now (some (q.cap now slot))
        { v with remaining := v.remaining - 1, last := some (q.cap now slot) }

variable {q} {w v : Window} {now slot start : Instant} {clock : Clock} {status : Status}
  {headers : Headers}

theorem hands_next (q : Quota) (w : Window) (now : Instant) :
    q.Hands w now (q.next w now).1 (q.next w now).2 := by
  unfold next
  split
  · next hwindow => exact .unlimited hwindow
  · next hwindow =>
    have hwindow := Nat.pos_of_ne_zero hwindow
    split
    · next hroll => exact .lost hroll
    · next v hroll =>
      split
      · next hpacing =>
        by_cases hleft : 0 < v.remaining
        · simpa [burst, hleft] using Hands.left hwindow hroll hpacing hleft
        · simpa [burst, hleft] using
            Hands.deferred hwindow hroll hpacing (Nat.eq_zero_of_not_pos hleft)
      · next hpacing =>
        split
        · next hslot => exact .unspaced hroll hpacing hslot
        · next slot hslot => exact .spaced hwindow hroll hpacing hslot

/-! ## When a request is answered -/

/-- No sum that a request makes is beyond the clock : the end of a window that begins now, if the
window is over, and the instant that is evenly spaced from the last one. -/
def Shows (q : Quota) (w : Window) (now : Instant) : Prop :=
  q.window = 0 ∨ (now < w.reset ∨ now + q.window ≤ maxInstant) ∧
    (q.pacing = .meter → ∀ last ∈ w.last, last + q.spacing w.limit ≤ maxInstant)

theorem isSome_metered? (q : Quota) (w : Window) (now : Instant) :
    (q.metered? w now).isSome ↔ ∀ last ∈ w.last, last + q.spacing w.limit ≤ maxInstant := by
  unfold metered? Instant.add?
  cases w.last with
  | none => simp
  | some last => by_cases h : last + q.spacing w.limit ≤ maxInstant <;> simp [h]

/-- A request is answered exactly if no sum that it makes is beyond the clock. -/
theorem isSome_next : (q.next w now).1.isSome ↔ q.Shows w now := by
  unfold Shows
  by_cases hwindow : q.window = 0
  · simp [next, hwindow]
  have hroll := w.isSome_roll? q.window now
  simp only [hwindow, false_or] at hroll ⊢
  cases hv : w.roll? q.window now with
  | none =>
    have hlost : ¬(now < w.reset ∨ now + q.window ≤ maxInstant) := by
      rw [← hroll, hv]
      exact Bool.false_ne_true
    simp [next, hwindow, hv, hlost]
  | some v =>
    have hshown := hroll.1 (by simp [hv])
    cases hpacing : q.pacing with
    | burst => simp [next, hwindow, hv, hpacing, hshown]
    | meter =>
      have hmetered := q.isSome_metered? v now
      rw [Window.roll?_last hv, Window.roll?_limit hv] at hmetered
      cases hslot : q.metered? v now <;>
        simpa [next, hwindow, hv, hpacing, hslot, hshown] using hmetered

/-! ## The bounds of an instant -/

/-- An instant that may be handed out at a time : it is not before it, and not after the longest
delay, if there is one whose end the clock shows. -/
structure Allows (q : Quota) (now slot : Instant) : Prop where
  le : now ≤ slot
  capped : ∀ d, q.maxDelay = some d → now + d ≤ maxInstant → slot ≤ now + d

theorem allows_cap (h : now ≤ slot) : q.Allows now (q.cap now slot) := by
  unfold cap
  cases hdelay : q.maxDelay with
  | none => exact ⟨by simpa using h, by simp [hdelay]⟩
  | some d =>
    by_cases hshown : now + d ≤ maxInstant
    · have hadd : now.add? d = some (now + d) := if_pos hshown
      simp only [Option.bind_some, hadd]
      refine ⟨by lia, fun d' hd' _ => ?_⟩
      obtain rfl := Option.some.inj (hdelay.symm.trans hd')
      exact Int.min_le_right _ _
    · have hadd : now.add? d = none := if_neg hshown
      simp only [Option.bind_some, hadd]
      refine ⟨h, fun d' hd' hshown' => ?_⟩
      obtain rfl := Option.some.inj (hdelay.symm.trans hd')
      exact absurd hshown' hshown

theorem le_of_metered? (h : q.metered? w now = some slot) : now ≤ slot := by
  unfold metered? at h
  split at h
  · exact Int.le_of_eq (Option.some.inj h)
  · obtain ⟨t, -, rfl⟩ := Option.map_eq_some_iff.1 h
    exact Int.le_max_left _ _

/-- A request that comes within the greatest step of the reset is given an instant that may be
handed out. -/
theorem allows_of_hands {answer : Option Instant} (h : q.Hands w now answer v)
    (hbehind : now.since w.reset < Window.maxAdvance) (hslot : answer = some slot) :
    q.Allows now slot := by
  cases h with
  | unlimited =>
    obtain rfl := Option.some.inj hslot
    exact ⟨Int.le_refl _, fun d _ _ => by lia⟩
  | lost => cases hslot
  | left =>
    obtain rfl := Option.some.inj hslot
    exact allows_cap (Int.le_refl _)
  | deferred hwindow hroll =>
    obtain rfl := Option.some.inj hslot
    exact allows_cap (Int.le_of_lt (Window.lt_of_roll? hwindow hbehind hroll))
  | unspaced => cases hslot
  | spaced _ _ _ hmetered =>
    obtain rfl := Option.some.inj hslot
    exact allows_cap (le_of_metered? hmetered)

/-! ## What a response may do -/

/-- Numbers are refused for the header that makes no sense. -/
theorem exists_mem_of_stated_error {names : List Header.Name} {e : Refusal}
    (h : stated headers names = .error e) :
    ∃ name ∈ names, ∃ value, e = .invalidHeader name.text value := by
  induction names with
  | nil => cases h
  | cons name names ih =>
    have hrest (h : stated headers names = .error e) :
        ∃ name' ∈ name :: names, ∃ value, e = .invalidHeader name'.text value := by
      obtain ⟨name', hmem, hvalue⟩ := ih h
      exact ⟨name', List.mem_cons_of_mem name hmem, hvalue⟩
    unfold stated at h
    split at h
    · exact hrest h
    · simp only at h
      split at h
      · exact hrest h
      · split at h
        · cases h
        · obtain rfl := Except.error.inj h
          exact ⟨name, List.mem_cons_self, _, rfl⟩

/-- A header that makes no sense is all that the numbers of a response are refused for. -/
theorem stated_error {names : List Header.Name} {e : Refusal}
    (h : stated headers names = .error e) : ∃ name value, e = .invalidHeader name value := by
  obtain ⟨name, -, value, rfl⟩ := exists_mem_of_stated_error h
  exact ⟨name.text, value, rfl⟩

/-- A server cannot put the reset before the time of its response. -/
theorem le_instantOf? {n : Nat} {t : Instant} (h : q.instantOf? clock n = some t) :
    clock.now ≤ t := by
  unfold instantOf? at h
  simp only at h
  split at h
  · have := (Instant.add?_eq_some.1 h).1
    lia
  · cases h

/-- What the numbers of a response may do to the state. -/
structure Takes (w : Window) (now : Instant) (answer : Except Refusal Unit) (v : Window) :
    Prop where
  last : v.last = w.last
  reset : v.reset = w.reset ∨ now ≤ v.reset
  refused : ∀ e, answer = .error e → ∃ name value, e = .invalidHeader name value

theorem takes_takeStated (q : Quota) (w : Window) (clock : Clock) (headers : Headers) :
    Takes w clock.now (q.takeStated w clock headers).1 (q.takeStated w clock headers).2 := by
  unfold takeStated
  rcases hlimit : stated headers limitNames with e | _ | limit
  · exact ⟨rfl, .inl rfl, fun _ he => Except.error.inj he ▸ stated_error hlimit⟩
  all_goals
    rcases hremaining : stated headers remainingNames with e | _ | remaining
    · exact ⟨rfl, .inl rfl, fun _ he => Except.error.inj he ▸ stated_error hremaining⟩
    all_goals
      rcases hreset : stated headers resetNames with e | _ | n
      · exact ⟨rfl, .inl rfl, fun _ he => Except.error.inj he ▸ stated_error hreset⟩
      · exact ⟨rfl, .inl rfl, fun _ he => nomatch he⟩
      · cases hinstant : q.instantOf? clock n with
        | none =>
          simp only [hinstant]
          exact ⟨rfl, .inl rfl, fun _ he => Except.error.inj he ▸ ⟨_, _, rfl⟩⟩
        | some t =>
          simp only [hinstant]
          exact ⟨rfl, .inr (le_instantOf? hinstant), fun _ he => nomatch he⟩

/-- The instant at which a response asks to send again may be handed out at the time of the
response. -/
theorem allows_of_retry {after : Instant}
    (h : (q.update w clock status headers).1 = some (.error (.retry after))) :
    q.Allows clock.now after := by
  unfold update at h
  split at h
  · next e w' htaken =>
    have htakes := takes_takeStated q w clock headers
    rw [htaken] at htakes
    obtain ⟨name, value, rfl⟩ := htakes.refused e rfl
    cases h
  · split at h
    · simp only at h
      split at h
      · cases h
      · next slot hslot =>
        obtain ⟨d, -, hadd⟩ := Option.bind_eq_some_iff.1 hslot
        obtain rfl := Refusal.retry.inj (Except.error.inj (Option.some.inj h))
        have := (Instant.add?_eq_some.1 hadd).1
        exact allows_cap (by lia)
    · split at h
      · split at h
        · cases h
        · obtain rfl := Refusal.retry.inj (Except.error.inj (Option.some.inj h))
          exact allows_cap (Int.le_max_right _ _)
      · cases h

/-! ## Where the reset is -/

theorem reset_le_report (q : Quota) (w : Window) (now : Instant) :
    w.reset ≤ (q.report w now).2.reset := by
  unfold report
  split
  · next v hroll => exact Window.reset_le_of_roll? hroll
  · exact Int.le_refl _

/-- A request never moves the reset back. -/
theorem reset_le_of_hands {answer : Option Instant} (h : q.Hands w now answer v) :
    w.reset ≤ v.reset := by
  cases h with
  | unlimited => exact Int.le_refl _
  | lost => exact Int.le_refl _
  | left _ hroll => exact (Window.reset_le_of_roll? hroll :)
  | @deferred v _ hroll =>
    refine Int.le_trans (Window.reset_le_of_roll? hroll) ?_
    simp only
    cases hadd : v.reset.add? q.window with
    | none => exact Int.le_refl _
    | some reset =>
      have := (Instant.add?_eq_some.1 hadd).1
      simp only [Option.getD_some]
      lia
  | unspaced hroll => exact Window.reset_le_of_roll? hroll
  | spaced _ hroll => exact (Window.reset_le_of_roll? hroll :)

/-- A response leaves the reset where it is, moves it forward or puts it to the time of the
response or later. -/
theorem reset_le_update (q : Quota) (w : Window) (clock : Clock) (status : Status)
    (headers : Headers) :
    min w.reset clock.now ≤ (q.update w clock status headers).2.reset := by
  have htaken := (takes_takeStated q w clock headers).reset
  unfold update
  split
  · next h => rw [h] at htaken; lia
  · next w' h =>
    rw [h] at htaken
    split
    · simp only
      split <;> (simp only; lia)
    · split
      · split
        · simp only; lia
        · next hroll =>
          have := Window.reset_le_of_roll? hroll
          simp only at htaken ⊢
          lia
      · simp only; lia

/-! ## Any history -/

/-- Instants that are less than 2^63 nanoseconds apart. -/
def Near (start t : Instant) : Prop :=
  start - 2 ^ 63 < t ∧ t < start + 2 ^ 63

instance (start : Instant) : DecidablePred (Near start) :=
  fun _ => inferInstanceAs (Decidable (_ ∧ _))

/-- The reset is not 2^63 nanoseconds or more before the start. -/
def Anchored (start : Instant) (w : Window) : Prop :=
  start - 2 ^ 63 < w.reset

namespace Anchored

theorem begin (h : q.begin? start = some w) : Anchored start w := by
  obtain ⟨reset, hreset, rfl⟩ := Option.map_eq_some_iff.1 h
  have := (Instant.add?_eq_some.1 hreset).1
  unfold Anchored
  lia

/-- No call breaks it that is made near the start. -/
theorem after (h : Anchored start w) {op : Op} (hop : Near start op.instant) :
    Anchored start (q.after w op) := by
  unfold Anchored at *
  have hlow := hop.1
  cases op with
  | report now =>
    have := q.reset_le_report w now
    unfold Quota.after
    lia
  | next now =>
    have := reset_le_of_hands (hands_next q w now)
    unfold Quota.after
    lia
  | update clock status headers =>
    have := q.reset_le_update w clock status headers
    unfold Quota.after Op.instant at *
    lia

theorem afterAll :
    ∀ {ops : List Op} {w : Window}, Anchored start w → (∀ op ∈ ops, Near start op.instant) →
      Anchored start (q.afterAll w ops)
  | [], _, h, _ => h
  | _ :: _, _, h, hops => by
    obtain ⟨hop, hops⟩ := List.forall_mem_cons.1 hops
    exact (h.after hop).afterAll hops

/-- A call that is made near the start comes within the greatest step of the reset. -/
theorem since_lt (h : Anchored start w) (hnow : Near start now) :
    now.since w.reset < Window.maxAdvance := by
  have hhigh := hnow.2
  unfold Anchored Instant.since Window.maxAdvance at *
  lia

end Anchored

/-- Whatever a quota went through near its start, a request is answered unless a sum that it makes
is beyond the clock, and both the instant that it is given and the one at which a response asks to
send again are not before the time of the call, nor after the longest delay. -/
theorem pacing_bounds (hbegin : q.begin? start = some w) {ops : List Op}
    (hops : ∀ op ∈ ops, Near start op.instant) :
    (∀ now, Near start now → q.Shows (q.afterAll w ops) now →
      ∃ slot, (q.next (q.afterAll w ops) now).1 = some slot ∧ q.Allows now slot) ∧
    ∀ clock status headers after, Near start clock.now →
      (q.update (q.afterAll w ops) clock status headers).1 = some (.error (.retry after)) →
      q.Allows clock.now after := by
  have hanchored := (Anchored.begin hbegin).afterAll (q := q) hops
  refine ⟨fun now hnow hshows => ?_, fun _ _ _ _ _ hretry => allows_of_retry hretry⟩
  obtain ⟨slot, hslot⟩ := Option.isSome_iff_exists.1 (isSome_next.2 hshows)
  exact ⟨slot, hslot, allows_of_hands (hands_next _ _ _) (hanchored.since_lt hnow) hslot⟩

/-- A quota of one with a longest delay of 30, after a request and a response that there were too
many : the next instant and the next retry are put off by 30, and not to the end of the window. -/
theorem pacing_bounds_capped :
    let q : Quota := { events := 1, window := 100, maxDelay := some 30 }
    let w : Window := { limit := 1, remaining := 1, reset := 100, last := none }
    let v := q.afterAll w [.next 0, .update ⟨10, 0⟩ .tooManyRequests {}]
    q.begin? 0 = some w ∧ q.Shows v 20 ∧
      (∃ slot, (q.next v 20).1 = some slot ∧ slot = 50 ∧ q.Allows 20 slot) ∧
      (q.update v ⟨20, 0⟩ .tooManyRequests {}).1 = some (.error (.retry 50)) ∧
      q.Allows 20 50 := by
  intro q w v
  have hbegin : q.begin? 0 = some w := by decide
  have hshows : q.Shows v 20 := .inr ⟨.inl (by decide), fun hpacing => nomatch hpacing⟩
  have hretry : (q.update v ⟨20, 0⟩ .tooManyRequests {}).1 = some (.error (.retry 50)) := rfl
  have hops : ∀ op ∈ [Op.next 0, .update ⟨10, 0⟩ .tooManyRequests {}], Near 0 op.instant := by
    decide
  obtain ⟨hnext, hupdate⟩ := pacing_bounds hbegin hops
  obtain ⟨slot, hslot, hallows⟩ := hnext 20 (by decide) hshows
  have h50 : slot = 50 := Option.some.inj (hslot.symm.trans (by decide))
  exact ⟨hbegin, hshows, ⟨slot, hslot, h50, hallows⟩, hretry,
    hupdate ⟨20, 0⟩ _ _ _ (by decide) hretry⟩

end Quota

end Courier
