import Courier.Proofs.Quota.Pace

/-!
# Sums that cannot fail

The calls of a quota add lengths of time to instants, divide by a limit or by the length of a
window, and take one from what remains. `Quota.Strict` tells the calls with all this spelled out :
a sum beyond the clock, a quotient by zero and a difference below zero make the call crash, as long
as the call does not look first. The calls of a quota are these (`Strict.perform?_eq`), so all that
can make one crash is a clock that cannot show the end of a window from now on, or the instant that
follows the last one.

An even pace may run ahead of the clock, but with every call by the length of one window at most
(`Quota.Ahead.after`). So no call crashes while the clock can show as many windows from the time of
each call as there are calls, whatever limits and moments the server states
(`Quota.exists_performAll?`).
-/

namespace Courier

namespace Quota

open Limiter (Report Refusal)

/-! ## Calls that may crash -/

/-- The answer to a call. -/
inductive Reply where
  | report (r : Report)
  | slot (t : Instant)
  | verdict (v : Except Refusal Unit)
  deriving Repr

namespace Strict

/-- A quotient, which there is none of by zero. -/
def quotient? (a b : Nat) : Option Nat :=
  if b = 0 then none else some (a / b)

/-- A difference, which there is none of below zero. -/
def difference? (a b : Nat) : Option Nat :=
  if a < b then none else some (a - b)

/-- The state at `now`. The end of a window that begins now is worked out in any case. -/
def roll? (w : Window) (length : Duration) (now : Instant) : Option Window :=
  if now < w.reset ∨ length = 0 then some w
  else do
    let periods ← quotient? (now.since w.reset) length
    let fresh ← now.add? length
    let advance := min (length * (periods + 1)) Window.maxAdvance
    return { w with reset := (w.reset.add? advance).getD fresh, remaining := w.limit }

/-- An instant in a burst. What is left after a request that opens a window stops at zero. -/
def burst? (q : Quota) (w : Window) (now : Instant) : Option (Instant × Window) :=
  if w.remaining > 0 then do
    let remaining ← difference? w.remaining 1
    return (now, { w with remaining })
  else
    some (w.reset,
      { w with reset := (w.reset.add? q.window).getD w.reset, remaining := w.limit - 1 })

/-- An evenly spaced instant. What is left stops at zero. -/
def metered? (q : Quota) (w : Window) (now : Instant) : Option (Instant × Window) := do
  let space ← quotient? q.window (min (max w.limit 1) (Nat.pow 2 32 - 1))
  let slot ← match w.last with
    | none => some now
    | some last => (last.add? space).map (max now)
  return (slot, { w with remaining := w.remaining - 1 })

variable (q : Quota) (w : Window)

def next? (now : Instant) : Option (Instant × Window) :=
  if q.window = 0 then some (now, w)
  else do
    let w ← roll? w q.window now
    let (slot, w) ← match q.pacing with
      | .burst => burst? q w now
      | .meter => metered? q w now
    return (q.cap now slot, { w with last := some (q.cap now slot) })

def report? (now : Instant) : Option (Report × Window) := do
  let w ← roll? w q.window now
  return (⟨w.limit, w.remaining, w.reset⟩, w)

/-- Account for a response. What it states is added only after a look at the clock. -/
def update? (clock : Clock) (status : Status) (headers : Headers) :
    Option (Except Refusal Unit × Window) :=
  match q.takeStated w clock headers with
  | (.error e, w) => some (.error e, w)
  | (.ok (), w) =>
    match headers.first? Header.retryAfter with
    | some value =>
      match (q.delayOf? clock value).bind clock.now.add? with
      | none => some (.error (.invalidHeader Header.retryAfter.text value.lossy), w)
      | some slot => some (.error (.retry (q.cap clock.now slot)), w)
    | none =>
      if status = Status.tooManyRequests then do
        let w ← roll? w q.window clock.now
        return (.error (.retry (q.cap clock.now (max w.reset clock.now))), w)
      else some (.ok (), w)

/-- A call, with its answer and the state after it, unless it crashes. -/
def perform? : Op → Option (Reply × Window)
  | .report now => (report? q w now).map fun (r, w) => (.report r, w)
  | .next now => (next? q w now).map fun (t, w) => (.slot t, w)
  | .update clock status headers =>
    (update? q w clock status headers).map fun (v, w) => (.verdict v, w)

/-- Calls, one after the other, with all answers and the state after them, unless one crashes. -/
def performAll? (w : Window) : List Op → Option (List Reply × Window)
  | [] => some ([], w)
  | op :: ops => do
    let (reply, w) ← perform? q w op
    let (replies, w) ← performAll? w ops
    return (reply :: replies, w)

end Strict

/-! ## The calls of a quota -/

/-- The answer of a quota to a call. -/
def reply? (q : Quota) (w : Window) : Op → Option Reply
  | .report now => (q.report w now).1.map .report
  | .next now => (q.next w now).1.map .slot
  | .update clock status headers => (q.update w clock status headers).1.map .verdict

variable {q : Quota} {w v : Window} {now start : Instant} {clock : Clock} {status : Status}
  {headers : Headers} {n : Nat} {op : Op} {ops : List Op}

namespace Strict

theorem quotient?_of_pos {a b : Nat} (h : 0 < b) : quotient? a b = some (a / b) :=
  if_neg (Nat.ne_of_gt h)

theorem difference?_of_le {a b : Nat} (h : b ≤ a) : difference? a b = some (a - b) :=
  if_neg (Nat.not_lt.2 h)

/-- A window is looked at before its length divides anything. -/
theorem roll?_eq (w : Window) (length : Duration) (now : Instant) :
    roll? w length now = w.roll? length now := by
  unfold roll? Window.roll?
  split
  · rfl
  · next hover =>
    have hlength := Nat.pos_of_ne_zero (not_or.1 hover).2
    cases hfresh : now.add? length <;> simp [quotient?_of_pos hlength, Window.advance]

/-- What remains is looked at before one is taken from it. -/
theorem burst?_eq (q : Quota) (w : Window) (now : Instant) :
    burst? q w now = some (q.burst w now) := by
  unfold burst? burst
  split
  · next hleft => simp [difference?_of_le hleft]
  · rfl

/-- A limit is at least one when it divides a window. -/
theorem metered?_eq (q : Quota) (w : Window) (now : Instant) :
    metered? q w now =
      (q.metered? w now).map fun slot => (slot, { w with remaining := w.remaining - 1 }) := by
  have hdivisor : 0 < min (max w.limit 1) (Nat.pow 2 32 - 1) :=
    Nat.lt_min.2 ⟨Nat.lt_of_lt_of_le Nat.zero_lt_one (Nat.le_max_right _ _), by decide⟩
  unfold metered? Quota.metered? spacing
  rw [quotient?_of_pos hdivisor]
  cases w.last with
  | none => rfl
  | some last =>
    simp only [Option.bind_eq_bind, Option.bind_some]
    cases last.add? (q.window / min (max w.limit 1) (Nat.pow 2 32 - 1)) <;> rfl

theorem next?_eq (q : Quota) (w : Window) (now : Instant) :
    next? q w now = (q.next w now).1.map (·, (q.next w now).2) := by
  unfold next? next
  split
  · rfl
  · rw [roll?_eq]
    cases w.roll? q.window now with
    | none => rfl
    | some v =>
      cases q.pacing with
      | burst => simp [burst?_eq]
      | meter => cases h : q.metered? v now <;> simp [metered?_eq, h]

theorem report?_eq (q : Quota) (w : Window) (now : Instant) :
    report? q w now = (q.report w now).1.map (·, (q.report w now).2) := by
  unfold report? report
  rw [roll?_eq]
  cases w.roll? q.window now <;> rfl

theorem update?_eq (q : Quota) (w : Window) (clock : Clock) (status : Status)
    (headers : Headers) :
    update? q w clock status headers =
      (q.update w clock status headers).1.map (·, (q.update w clock status headers).2) := by
  unfold update? update
  rcases q.takeStated w clock headers with ⟨_ | _, v⟩
  · rfl
  · cases headers.first? Header.retryAfter with
    | some value => cases h : (q.delayOf? clock value).bind clock.now.add? <;> simp [h]
    | none =>
      by_cases hmany : status = Status.tooManyRequests
      · cases h : v.roll? q.window clock.now <;> simp [hmany, roll?_eq, h]
      · simp [hmany]

/-- A quota answers a call exactly if nothing in it crashes, and with the same answer. -/
theorem perform?_eq (q : Quota) (w : Window) (op : Op) :
    perform? q w op = (q.reply? w op).map (·, q.after w op) := by
  cases op with
  | report => simp [perform?, reply?, report?_eq, after, Function.comp_def]
  | next => simp [perform?, reply?, next?_eq, after, Function.comp_def]
  | update => simp [perform?, reply?, update?_eq, after, Function.comp_def]

/-- Each of some calls is answered in its turn. -/
theorem exists_perform? :
    ∀ {before : List Op} {w v : Window} {after : List Op} {replies : List Reply},
      performAll? q w (before ++ op :: after) = some (replies, v) →
        ∃ w' reply v', perform? q w' op = some (reply, v') ∧
          replies[before.length]? = some reply
  | [], w, _, after, _, h => by
    obtain ⟨⟨reply, v'⟩, hreply, h⟩ := Option.bind_eq_some_iff.1 h
    obtain ⟨⟨replies, _⟩, -, heq⟩ := Option.bind_eq_some_iff.1 h
    cases heq
    exact ⟨w, reply, v', hreply, rfl⟩
  | _ :: before, _, _, _, _, h => by
    obtain ⟨⟨reply, v'⟩, -, h⟩ := Option.bind_eq_some_iff.1 h
    obtain ⟨⟨replies, _⟩, hrest, heq⟩ := Option.bind_eq_some_iff.1 h
    cases heq
    obtain ⟨w', reply', v'', hreply', hget⟩ := exists_perform? hrest
    exact ⟨w', reply', v'', hreply', hget⟩

theorem length_performAll? :
    ∀ {ops : List Op} {w v : Window} {replies : List Reply},
      performAll? q w ops = some (replies, v) → replies.length = ops.length
  | [], _, _, _, h => by
    cases h
    rfl
  | _ :: _, _, _, _, h => by
    obtain ⟨_, -, h⟩ := Option.bind_eq_some_iff.1 h
    obtain ⟨⟨replies, _⟩, hrest, heq⟩ := Option.bind_eq_some_iff.1 h
    cases heq
    rw [List.length_cons, List.length_cons, length_performAll? hrest]

end Strict

/-! ## How far ahead a quota is -/

/-- The clock shows some windows after the last instant of a quota that spreads its requests. -/
def Ahead (q : Quota) (n : Nat) (w : Window) : Prop :=
  q.pacing = .meter → ∀ last ∈ w.last, last + (n * q.window : Nat) ≤ maxInstant

/-- One window more. -/
theorem cast_succ_windows (n : Nat) (length : Duration) :
    (((n + 1) * length : Nat) : Int) = (n * length : Nat) + length := by
  rw [Nat.succ_mul, Int.natCast_add]

theorem cap_le (q : Quota) (now slot : Instant) : q.cap now slot ≤ slot := by
  unfold cap
  split
  · exact Int.min_le_left _ _
  · exact Int.le_refl _

theorem spacing_le (q : Quota) (limit : Nat) : q.spacing limit ≤ q.window :=
  Nat.div_le_self _ _

/-- A quota that is not asked for an instant is not further ahead. -/
theorem Ahead.of_last (h : q.Ahead (n + 1) w) (hlast : v.last = w.last) : q.Ahead n v := by
  intro hpacing last hmem
  have hroom := h hpacing last (hlast ▸ hmem)
  rw [cast_succ_windows] at hroom
  lia

/-- A request runs ahead of the clock by the length of one window more, at most. -/
theorem Ahead.of_hands {answer : Option Instant} (h : q.Ahead (n + 1) w)
    (hroom : now + ((n + 1) * q.window : Nat) ≤ maxInstant) (hhands : q.Hands w now answer v) :
    q.Ahead n v := by
  cases hhands with
  | unlimited | lost => exact h.of_last rfl
  | left _ _ hpacing | deferred _ _ hpacing =>
    intro hmeter
    rw [hpacing] at hmeter
    cases hmeter
  | unspaced hroll => exact h.of_last (Window.roll?_last hroll)
  | @spaced v slot _ hroll hpacing hslot =>
    intro _ last hmem
    obtain rfl := Option.some.inj hmem
    refine Int.le_trans (Int.add_le_add_right (q.cap_le now slot) _) ?_
    rw [cast_succ_windows] at hroom
    unfold metered? at hslot
    rw [Window.roll?_last hroll] at hslot
    split at hslot
    · obtain rfl := Option.some.inj hslot
      lia
    · next last hlast =>
      obtain ⟨t, ht, rfl⟩ := Option.map_eq_some_iff.1 hslot
      have hspace := q.spacing_le v.limit
      have hnext := (Instant.add?_eq_some.1 ht).1
      have hahead := h hpacing last hlast
      rw [cast_succ_windows] at hahead
      lia

theorem Ahead.after (h : q.Ahead (n + 1) w)
    (hroom : op.instant + ((n + 1) * q.window : Nat) ≤ maxInstant) : q.Ahead n (q.after w op) := by
  cases op with
  | report now => exact h.of_last (q.report_limit w now).2
  | next now => exact h.of_hands hroom (hands_next q w now)
  | update clock status headers => exact h.of_last (q.update_limit w clock status headers).2

/-- A call is answered if the clock shows the end of a window that begins now, and of one that
begins with the last instant. -/
theorem isSome_reply? (h : q.Ahead (n + 1) w)
    (hroom : op.instant + ((n + 1) * q.window : Nat) ≤ maxInstant) : (q.reply? w op).isSome := by
  rw [cast_succ_windows] at hroom
  have hend : op.instant + q.window ≤ maxInstant := by lia
  have hroll (v : Window) : (v.roll? q.window op.instant).isSome :=
    (v.isSome_roll? _ _).2 (.inr (.inr hend))
  cases op with
  | report now =>
    obtain ⟨v, hv⟩ := Option.isSome_iff_exists.1 (hroll w)
    simp only [Op.instant] at hv
    simp [reply?, report, hv]
  | next now =>
    have hshows : q.Shows w now := by
      refine .inr ⟨.inr hend, fun hpacing last hlast => ?_⟩
      have hspace := q.spacing_le w.limit
      have hahead := h hpacing last hlast
      rw [cast_succ_windows] at hahead
      lia
    simpa [reply?] using isSome_next.2 hshows
  | update clock status headers =>
    simp only [reply?, Option.isSome_map]
    unfold update
    rcases q.takeStated w clock headers with ⟨_ | _, v⟩
    · rfl
    · obtain ⟨v', hv'⟩ := Option.isSome_iff_exists.1 (hroll v)
      simp only [Op.instant] at hv'
      cases headers.first? Header.retryAfter with
      | some value => cases h : (q.delayOf? clock value).bind clock.now.add? <;> simp [h]
      | none => by_cases hmany : status = Status.tooManyRequests <;> simp [hmany, hv']

/-- No call crashes while the clock shows as many windows as there are calls. -/
theorem exists_performAll? :
    ∀ {ops : List Op} {w : Window}, q.Ahead ops.length w →
      (∀ op ∈ ops, op.instant + (ops.length * q.window : Nat) ≤ maxInstant) →
      ∃ replies, Strict.performAll? q w ops = some (replies, q.afterAll w ops)
  | [], _, _, _ => ⟨[], rfl⟩
  | op :: ops, w, h, hroom => by
    obtain ⟨hop, hroom⟩ := List.forall_mem_cons.1 hroom
    rw [List.length_cons] at h hop hroom
    obtain ⟨reply, hreply⟩ := Option.isSome_iff_exists.1 (isSome_reply? h hop)
    have hrest : ∀ op ∈ ops, op.instant + (ops.length * q.window : Nat) ≤ maxInstant := by
      intro op hop
      have hmore := hroom op hop
      rw [cast_succ_windows] at hmore
      lia
    obtain ⟨replies, hreplies⟩ := exists_performAll? (h.after hop) hrest
    refine ⟨reply :: replies, ?_⟩
    simp [Strict.performAll?, Strict.perform?_eq, hreply, hreplies, afterAll]

end Quota

end Courier
