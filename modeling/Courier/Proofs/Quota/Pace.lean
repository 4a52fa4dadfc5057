import Courier.Proofs.Quota.History

/-!
# An even pace

A quota that spreads its requests evenly hands out the time of a request, or the instant that
follows the last one after the length of a window divided by the limit, whichever is later. Of all
that happens to such a quota, it matters only at which instants it is asked and which limits the
server states (`Quota.Beat`) : what remains, the reset, the status of a response and the rolling of
windows do not (`Quota.meter_paced`). The state has to know no more than the limit in force and the
last instant for that (`Quota.answers_paced`).
-/

namespace Courier

namespace Quota

/-- A quota that spreads its requests evenly, and whose delays have no bound. -/
structure PlainMeter (q : Quota) : Prop where
  pacing : q.pacing = .meter
  uncapped : q.maxDelay = none
  window_pos : 0 < q.window

/-! ## What matters to an even pace -/

/-- What matters of a call : that it is a request, or the limit that it puts in force. -/
inductive Beat where
  | request (now : Instant)
  | limit (n : Nat)
  deriving Repr, DecidableEq

/-- The limit that a response puts in force, if it states one that makes sense. -/
def statedLimit? (headers : Headers) : Option Nat :=
  match stated headers limitNames with
  | .ok (some n) => some (max n 1)
  | _ => none

/-- What matters of a call. -/
def Op.beat? : Op → Option Beat
  | .report _ => none
  | .next now => some (.request now)
  | .update _ _ headers => (statedLimit? headers).map .limit

/-- What matters of some calls. -/
def beats (ops : List Op) : List Beat :=
  ops.filterMap Op.beat?

/-- An instant that was handed out, with the space that it has to keep from the one before. -/
structure Spaced where
  slot : Instant
  space : Duration
  deriving Repr, DecidableEq

/-- An instant keeps its space from one that was handed out earlier. -/
def Spaced.Follows (earlier later : Spaced) : Prop :=
  earlier.slot + later.space ≤ later.slot

variable (q : Quota)

/-- The instants that an even pace hands out, with a limit in force and after the last instant. -/
def paced (limit : Nat) (last : Option Instant) : List Beat → List Spaced
  | [] => []
  | .limit n :: later => paced n last later
  | .request now :: later =>
    let space := q.window / min limit (Nat.pow 2 32 - 1)
    let slot := match last with
      | none => now
      | some t => max now (t + space)
    ⟨slot, space⟩ :: paced limit (some slot) later

/-- No sum that the requests among some calls make is beyond the clock. -/
def AllShow (w : Window) : List Op → Prop
  | [] => True
  | .next now :: ops => q.Shows w now ∧ AllShow (q.next w now).2 ops
  | op :: ops => AllShow (q.after w op) ops

instance (w : Window) (now : Instant) : Decidable (q.Shows w now) :=
  inferInstanceAs (Decidable (_ ∨ (_ ∨ _) ∧ (_ → ∀ last ∈ w.last, _)))

instance : ∀ (w : Window) (ops : List Op), Decidable (q.AllShow w ops)
  | _, [] => inferInstanceAs (Decidable True)
  | w, .next now :: ops =>
    have := instDecidableAllShow (q.next w now).2 ops
    inferInstanceAs (Decidable (_ ∧ _))
  | w, .report now :: ops => instDecidableAllShow (q.after w (.report now)) ops
  | w, .update clock status headers :: ops =>
    instDecidableAllShow (q.after w (.update clock status headers)) ops

variable {q} {w : Window} {now start : Instant} {limit : Nat} {last : Option Instant}

/-! ## One call -/

theorem spacing_of_pos (h : 0 < limit) :
    q.spacing limit = q.window / min limit (Nat.pow 2 32 - 1) := by
  unfold spacing
  rw [Nat.max_eq_left h]

/-- A request is given the next instant of an even pace, and leaves the limit in force. -/
theorem next_paced (hq : q.PlainMeter) (hlimit : 0 < w.limit) (hshows : q.Shows w now) :
    ∃ s, q.paced w.limit w.last [.request now] = [s] ∧ (q.next w now).1 = some s.slot ∧
      (q.next w now).2.limit = w.limit ∧ (q.next w now).2.last = some s.slot := by
  obtain ⟨slot, hslot⟩ := Option.isSome_iff_exists.1 (isSome_next.2 hshows)
  have hhands := hands_next q w now
  rw [hslot] at hhands ⊢
  generalize (q.next w now).2 = v at hhands ⊢
  cases hhands with
  | unlimited hwindow => exact absurd hwindow (Nat.ne_of_gt hq.window_pos)
  | left _ _ hpacing | deferred _ _ hpacing => exact absurd (hpacing.symm.trans hq.pacing) (by simp)
  | @spaced v slot _ hroll _ hmetered =>
    have hcap : q.cap now slot = slot := by simp [cap, hq.uncapped]
    unfold metered? at hmetered
    rw [Window.roll?_last hroll, Window.roll?_limit hroll, spacing_of_pos hlimit] at hmetered
    rw [hcap]
    refine ⟨⟨slot, q.window / min w.limit (Nat.pow 2 32 - 1)⟩, ?_, rfl,
      (Window.roll?_limit hroll :), rfl⟩
    cases hlast : w.last with
    | none =>
      simp only [hlast, Option.some.injEq] at hmetered
      simp only [paced, hmetered]
    | some t =>
      simp only [hlast] at hmetered
      obtain ⟨u, hu, rfl⟩ := Option.map_eq_some_iff.1 hmetered
      simp only [paced, (Instant.add?_eq_some.1 hu).1]

theorem report_limit (q : Quota) (w : Window) (now : Instant) :
    (q.report w now).2.limit = w.limit ∧ (q.report w now).2.last = w.last := by
  unfold report
  split
  · next hroll => exact ⟨Window.roll?_limit hroll, Window.roll?_last hroll⟩
  · exact ⟨rfl, rfl⟩

theorem takeStated_limit (q : Quota) (w : Window) (clock : Clock) (headers : Headers) :
    (q.takeStated w clock headers).2.limit = (statedLimit? headers).getD w.limit := by
  unfold takeStated statedLimit?
  rcases stated headers limitNames with _ | _ | n
  · rfl
  all_goals
    rcases stated headers remainingNames with _ | _ | _
    · rfl
    all_goals
      rcases stated headers resetNames with _ | _ | m
      · rfl
      · rfl
      · cases hinstant : q.instantOf? clock m <;> simp only [hinstant] <;> rfl

/-- A response puts in force the limit that it states, and no instant is handed out. -/
theorem update_limit (q : Quota) (w : Window) (clock : Clock) (status : Status)
    (headers : Headers) :
    (q.update w clock status headers).2.limit = (statedLimit? headers).getD w.limit ∧
      (q.update w clock status headers).2.last = w.last := by
  have hlimit := q.takeStated_limit w clock headers
  have hlast := (takes_takeStated q w clock headers).last
  unfold update
  split
  · next h => rw [h] at hlimit hlast; exact ⟨hlimit, hlast⟩
  · next v h =>
    rw [h] at hlimit hlast
    split
    · simp only
      split <;> exact ⟨hlimit, hlast⟩
    · split
      · split
        · exact ⟨hlimit, hlast⟩
        · next hroll =>
          exact ⟨(Window.roll?_limit hroll).trans hlimit, (Window.roll?_last hroll).trans hlast⟩
      · exact ⟨hlimit, hlast⟩

theorem statedLimit?_pos {headers : Headers} {n : Nat} (h : statedLimit? headers = some n) :
    0 < n := by
  unfold statedLimit? at h
  split at h
  · obtain rfl := Option.some.inj h
    exact Nat.lt_of_lt_of_le Nat.zero_lt_one (Nat.le_max_right _ _)
  · cases h

/-! ## Any number of calls -/

theorem paced_cons (later : List Beat) {s : Spaced}
    (h : q.paced limit last [.request now] = [s]) :
    q.paced limit last (.request now :: later) = s :: q.paced limit (some s.slot) later := by
  obtain rfl := (List.cons.inj h).1
  rfl

/-- As long as no sum is beyond the clock, a quota that spreads its requests evenly keeps an even
pace, of which the limit in force and the last instant are all that it has to know. -/
theorem answers_paced (hq : q.PlainMeter) :
    ∀ (ops : List Op) {w : Window}, 0 < w.limit → q.AllShow w ops →
      q.answers w ops = (q.paced w.limit w.last (beats ops)).map (some ·.slot)
  | [], _, _, _ => rfl
  | .report now :: ops, w, hlimit, hshow => by
    obtain ⟨hsame, hlast⟩ := q.report_limit w now
    have hpos : 0 < (q.report w now).2.limit := hsame ▸ hlimit
    have ih := answers_paced hq ops hpos hshow
    rw [hsame, hlast] at ih
    exact ih
  | .next now :: ops, w, hlimit, hshow => by
    obtain ⟨s, hpaced, hanswer, hsame, hlast⟩ := next_paced hq hlimit hshow.1
    have ih := answers_paced hq ops (hsame ▸ hlimit) hshow.2
    rw [hsame, hlast] at ih
    have hbeats : beats (.next now :: ops) = .request now :: beats ops := rfl
    rw [answers, hanswer, ih, hbeats, paced_cons _ hpaced, List.map_cons]
  | .update clock status headers :: ops, w, hlimit, hshow => by
    obtain ⟨hsame, hlast⟩ := q.update_limit w clock status headers
    have hpos : 0 < (q.update w clock status headers).2.limit := by
      rw [hsame]
      cases hstated : statedLimit? headers with
      | none => exact hlimit
      | some n => exact statedLimit?_pos hstated
    have ih := answers_paced hq ops hpos hshow
    rw [hsame, hlast] at ih
    refine Eq.trans ih ?_
    cases hstated : statedLimit? headers <;> simp [beats, Op.beat?, hstated, paced]

/-- Whatever an even pace hands out after an instant keeps its space from it. -/
theorem follows_paced :
    ∀ (later : List Beat) {limit : Nat} {t : Instant} {space : Duration},
      ∀ s ∈ q.paced limit (some t) later, Spaced.Follows ⟨t, space⟩ s
  | [], _, _, _, _, hs => nomatch hs
  | .limit _ :: later, _, _, _, s, hs => follows_paced later s hs
  | .request now :: later, limit, t, _, s, hs => by
    rcases List.mem_cons.1 hs with rfl | hs
    · exact Int.le_max_right _ _
    · have ih : Spaced.Follows ⟨_, 0⟩ s := follows_paced later s hs
      unfold Spaced.Follows at *
      lia

theorem pairwise_paced :
    ∀ (later : List Beat) {limit : Nat} {last : Option Instant},
      (q.paced limit last later).Pairwise Spaced.Follows
  | [], _, _ => .nil
  | .limit _ :: later, _, _ => (pairwise_paced later :)
  | .request _ :: later, _, _ =>
    List.pairwise_cons.2 ⟨fun s hs => follows_paced later s hs, pairwise_paced later⟩

theorem begin_limit (hbegin : q.begin? start = some w) :
    w.limit = max q.events 1 ∧ w.last = none ∧ w.reset = start + q.window ∧
      start + q.window ≤ maxInstant := by
  obtain ⟨reset, hreset, rfl⟩ := Option.map_eq_some_iff.1 hbegin
  obtain ⟨rfl, hle⟩ := Instant.add?_eq_some.1 hreset
  exact ⟨rfl, rfl, rfl, hle⟩

/-- Whatever a quota that spreads its requests evenly goes through, a request is given its own time
or the instant that follows the last one after the window divided by the limit in force, whichever
is later. So no instant is before one that was handed out earlier, or closer to it than that. Calls
that differ in other things than the times of the requests and the limits have the same answers. -/
theorem meter_paced (hq : q.PlainMeter) (hbegin : q.begin? start = some w) {ops : List Op}
    (hshow : q.AllShow w ops) :
    let given := q.paced (max q.events 1) none (beats ops)
    q.answers w ops = given.map (some ·.slot) ∧
      given.Pairwise Spaced.Follows ∧
      (given.map Spaced.slot).Pairwise (· ≤ ·) ∧
      ∀ ops', beats ops' = beats ops → q.AllShow w ops' → q.answers w ops' = q.answers w ops := by
  obtain ⟨hlimit, hlast, -, -⟩ := begin_limit hbegin
  have hpos : 0 < w.limit := hlimit ▸ Nat.lt_of_lt_of_le Nat.zero_lt_one (Nat.le_max_right _ _)
  have hanswers {ops : List Op} (hshow : q.AllShow w ops) :
      q.answers w ops = (q.paced (max q.events 1) none (beats ops)).map (some ·.slot) := by
    rw [answers_paced hq ops hpos hshow, hlimit, hlast]
  refine ⟨hanswers hshow, pairwise_paced _, ?_, fun ops' hbeats hshow' => ?_⟩
  · refine List.pairwise_map.2 ((pairwise_paced _).imp fun hfollows => ?_)
    unfold Spaced.Follows at hfollows
    lia
  · rw [hanswers hshow', hanswers hshow, hbeats]

/-- A limit of 3 in 100 keeps a space of 33 between requests. The later one of two that are asked
for out of order waits for the earlier, and so does a third one after the server has stated a limit
of 4, that nothing remains and that there were too many. -/
theorem meter_paced_restated :
    let q : Quota := { events := 3, window := 100, pacing := .meter }
    let w : Window := { limit := 3, remaining := 3, reset := 100, last := none }
    let headers : Headers := ⟨[⟨⟨"x-ratelimit-limit"⟩, [{ bytes := [52] }]⟩,
      ⟨⟨"x-ratelimit-remaining"⟩, [{ bytes := [48] }]⟩]⟩
    let ops : List Op :=
      [.next 10, .next 0, .update ⟨150, 0⟩ .tooManyRequests headers, .report 500, .next 5]
    q.PlainMeter ∧ q.begin? 0 = some w ∧ q.AllShow w ops ∧
      q.answers w ops = [some 10, some 43, some 68] ∧
      (q.paced 3 none (beats ops)).Pairwise Spaced.Follows := by
  intro q w headers ops
  have hq : q.PlainMeter := ⟨rfl, rfl, by decide⟩
  have hbegin : q.begin? 0 = some w := by decide
  have hshow : q.AllShow w ops := by decide +kernel
  obtain ⟨hanswers, hfollows, -, -⟩ := meter_paced hq hbegin hshow
  exact ⟨hq, hbegin, hshow, hanswers.trans (by decide +kernel), hfollows⟩

end Quota

end Courier
