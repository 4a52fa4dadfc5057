import Courier.Proofs.Quota.Pace

/-!
# How many requests come in a window

A quota that spreads its requests evenly divides the length of a window by the limit, and rounds
down, so its instants can be too close. In a stretch of time as long as a window there are never so
many of them that the space between the first and the last is a window (`Quota.crowd_mul_lt`), and
requests that come at once are given instants with no more space between them (`Quota.paced_le`).
So a quota hands out no more instants than it allows exactly if as many of the rounded spaces make
up a window. For a limit that is not cut off this means that it divides the window
(`Quota.meter_within_iff`).
-/

namespace Courier

namespace Quota

/-- How many of some instants are in a stretch of time as long as a window. -/
def crowd (q : Quota) (t : Instant) (slots : List Instant) : Nat :=
  slots.countP fun s => t ≤ s ∧ s < t + q.window

/-- Whether a call tells of a response. -/
def Op.IsUpdate : Op → Prop
  | .update .. => True
  | _ => False

/-- However a quota is asked for instants and what is left, no stretch of time as long as a window
holds more of the instants that it hands out than it allows. -/
def Keeps (q : Quota) (w : Window) : Prop :=
  ∀ ops : List Op, (∀ op ∈ ops, ¬op.IsUpdate) → q.AllShow w ops →
    ∀ slots : List Instant, q.answers w ops = slots.map some → ∀ t, q.crowd t slots ≤ q.events

variable {q : Quota} {w : Window} {now start : Instant} {limit : Nat} {last : Option Instant}

theorem isRequest_of_beats {ops : List Op} (hquiet : ∀ op ∈ ops, ¬op.IsUpdate) :
    ∀ b ∈ beats ops, ∃ now, b = .request now := by
  intro b hb
  obtain ⟨op, hop, hbeat⟩ := List.mem_filterMap.1 hb
  cases op with
  | report => cases hbeat
  | next now => exact ⟨now, (Option.some.inj hbeat).symm⟩
  | update => exact absurd trivial (hquiet _ hop)

/-- The space is the same while no other limit is stated. -/
theorem space_paced :
    ∀ {later : List Beat} {last : Option Instant}, (∀ b ∈ later, ∃ now, b = .request now) →
      ∀ s ∈ q.paced limit last later, s.space = q.window / min limit (Nat.pow 2 32 - 1)
  | [], _, _, _, hs => nomatch hs
  | .limit _ :: _, _, hrequests, _, _ => nomatch hrequests _ List.mem_cons_self
  | .request _ :: _, _, hrequests, s, hs => by
    rcases List.mem_cons.1 hs with rfl | hs
    · rfl
    · exact space_paced (fun b hb => hrequests b (List.mem_cons_of_mem _ hb)) s hs

/-- Instants that keep a space from each other end as much later than they begin as there are
spaces between them. -/
theorem exists_far {space : Duration} :
    ∀ {slots : List Instant} {first : Instant},
      (first :: slots).Pairwise (fun s s' => s + (space : Int) ≤ s') →
      ∃ last ∈ first :: slots, first + (slots.length * space : Nat) ≤ last
  | [], first, _ => ⟨first, List.mem_cons_self, by simp⟩
  | second :: slots, first, hslots => by
    obtain ⟨last, hlast, hfar⟩ := exists_far hslots.of_cons
    have hnext := List.rel_of_pairwise_cons hslots List.mem_cons_self
    refine ⟨last, List.mem_cons_of_mem _ hlast, ?_⟩
    rw [List.length_cons, Nat.succ_mul]
    push_cast at hfar ⊢
    lia

/-- In a stretch of time as long as a window, the spaces between the instants are less than a
window. -/
theorem crowd_mul_lt {space : Duration} {slots : List Instant} (hwindow : 0 < q.window)
    (hslots : slots.Pairwise fun s s' => s + (space : Int) ≤ s') (t : Instant) :
    (q.crowd t slots - 1) * space < q.window := by
  have hinside (s : Instant) (hs : s ∈ slots.filter fun s => t ≤ s ∧ s < t + q.window) :
      t ≤ s ∧ s < t + q.window := by
    simpa using (List.mem_filter.1 hs).2
  have hpairwise := hslots.filter fun s => decide (t ≤ s ∧ s < t + q.window)
  unfold crowd
  rw [List.countP_eq_length_filter]
  generalize slots.filter _ = inside at hinside hpairwise
  cases inside with
  | nil => simpa using hwindow
  | cons first inside =>
    obtain ⟨last, hlast, hfar⟩ := exists_far hpairwise
    have hfirst := (hinside first List.mem_cons_self).1
    have hend := (hinside last hlast).2
    rw [List.length_cons, Nat.add_sub_cancel]
    lia

/-! ## Requests that come at once -/

theorem requests_paced (n : Nat) :
    (q.paced limit last (List.replicate n (.request now))).length = n := by
  induction n generalizing last with
  | zero => rfl
  | succ n ih => simp [List.replicate_succ, paced, ih]

theorem le_paced (n : Nat) :
    ∀ {last : Option Instant}, ∀ s ∈ q.paced limit last (List.replicate n (.request now)),
      now ≤ s.slot := by
  induction n with
  | zero => exact fun s hs => nomatch hs
  | succ n ih =>
    intro last s hs
    rcases List.mem_cons.1 hs with rfl | hs
    · cases last with
      | none => exact Int.le_refl _
      | some t => exact Int.le_max_left _ _
    · exact ih s hs

/-- Requests that come at once are given instants with no more space between them. -/
theorem paced_le (n : Nat) {t : Instant} (ht : now ≤ t) :
    ∀ s ∈ q.paced limit (some t) (List.replicate n (.request now)),
      s.slot ≤ t + (n * (q.window / min limit (Nat.pow 2 32 - 1)) : Nat) := by
  induction n generalizing t with
  | zero => exact fun s hs => nomatch hs
  | succ n ih =>
    intro s hs
    rw [Nat.succ_mul]
    generalize hspace : q.window / min limit (Nat.pow 2 32 - 1) = space at ih ⊢
    simp only [List.replicate_succ, paced, hspace] at hs
    have hmax : max now (t + space) = t + space := Int.max_eq_right (by lia)
    rw [hmax] at hs
    rcases List.mem_cons.1 hs with rfl | hs
    · push_cast
      have : (0 : Int) ≤ n * space := Int.mul_nonneg (Int.natCast_nonneg _) (Int.natCast_nonneg _)
      lia
    · have := ih (t := t + space) (by lia) s hs
      push_cast at this ⊢
      lia

/-- No sum is beyond the clock if it shows the ends of windows that begin with the requests, and
all instants that are handed out. -/
theorem allShow_of_paced (hq : q.PlainMeter) :
    ∀ {calls : List Instant} {w : Window}, 0 < w.limit →
      (∀ now ∈ calls, now + q.window ≤ maxInstant) →
      (∀ s ∈ q.paced w.limit w.last (calls.map .request), s.slot ≤ maxInstant) →
      q.AllShow w (calls.map .next)
  | [], _, _, _, _ => trivial
  | now :: calls, w, hlimit, hroom, hslots => by
    obtain ⟨hnow, hroom⟩ := List.forall_mem_cons.1 hroom
    have hshows : q.Shows w now := by
      refine .inr ⟨.inr hnow, fun _ t ht => ?_⟩
      have hslot := hslots _ List.mem_cons_self
      rw [Option.mem_def.1 ht] at hslot
      rw [spacing_of_pos hlimit]
      exact Int.le_trans (Int.le_max_right _ _) hslot
    obtain ⟨s, hpaced, -, hsame, hlast⟩ := next_paced hq hlimit hshows
    refine ⟨hshows, allShow_of_paced hq (hsame ▸ hlimit) hroom ?_⟩
    rw [hsame, hlast]
    rw [List.map_cons, paced_cons _ hpaced] at hslots
    exact (List.forall_mem_cons.1 hslots).2

/-- If the limit times the space is less than a window, requests that come at once are given too
many instants in it. -/
theorem not_keeps (hq : q.PlainMeter) (hbegin : q.begin? start = some w) (hevents : 0 < q.events)
    (hshort : q.events * q.spacing q.events < q.window) : ¬q.Keeps w := by
  obtain ⟨hlimit, hlast, -, hend⟩ := begin_limit hbegin
  rw [Nat.max_eq_left hevents] at hlimit
  rw [spacing_of_pos hevents] at hshort
  have hpos : 0 < w.limit := hlimit ▸ hevents
  let calls := List.replicate (q.events + 1) start
  let given := q.paced q.events none (List.replicate (q.events + 1) (.request start))
  have hcalls : calls.map Beat.request = List.replicate (q.events + 1) (.request start) :=
    List.map_replicate
  have hgiven : ∀ s ∈ given, start ≤ s.slot ∧ s.slot < start + q.window := by
    intro s hs
    refine ⟨le_paced _ s hs, ?_⟩
    rcases List.mem_cons.1 hs with rfl | hs
    · have := hq.window_pos
      simp only
      lia
    · have := paced_le q.events (Int.le_refl start) s hs
      lia
  have hshow : q.AllShow w (calls.map .next) := by
    refine allShow_of_paced hq hpos (fun now hnow => ?_) fun s hs => ?_
    · rwa [List.eq_of_mem_replicate hnow]
    · rw [hlimit, hlast, hcalls] at hs
      have := (hgiven s hs).2
      lia
  intro hkeeps
  have hanswers : q.answers w (calls.map .next) = (given.map Spaced.slot).map some := by
    have hbeats : beats (calls.map .next) = calls.map .request := by
      rw [beats, List.filterMap_map, ← List.filterMap_eq_map]
      rfl
    rw [answers_paced hq _ hpos hshow, hlimit, hlast, hbeats, hcalls, List.map_map]
    rfl
  have hquiet : ∀ op ∈ calls.map Op.next, ¬op.IsUpdate := by
    intro op hop
    obtain ⟨now, -, rfl⟩ := List.mem_map.1 hop
    exact id
  have hcrowd : q.crowd start (given.map Spaced.slot) = q.events + 1 := by
    unfold crowd
    rw [List.countP_map, List.countP_eq_length.2 fun s hs => by simpa using hgiven s hs]
    exact requests_paced _
  have := hkeeps _ hquiet hshow _ hanswers start
  omega

/-- A quota that spreads its requests evenly, and that nobody tells of responses, answers them with
instants whose spaces are less than a window in every stretch of time as long as one. It hands out
no more of them than it allows exactly if as many of its spaces make up a window, which for a limit
that is not cut off means that the limit divides the window. -/
theorem meter_within_iff (hq : q.PlainMeter) (hbegin : q.begin? start = some w)
    (hevents : 0 < q.events) :
    (∀ ops : List Op, (∀ op ∈ ops, ¬op.IsUpdate) → q.AllShow w ops →
      ∃ slots : List Instant, q.answers w ops = slots.map some ∧
        ∀ t, (q.crowd t slots - 1) * q.spacing q.events < q.window) ∧
      (q.Keeps w ↔ q.window ≤ q.events * q.spacing q.events) ∧
      (q.events < Nat.pow 2 32 → (q.Keeps w ↔ q.events ∣ q.window)) := by
  obtain ⟨hlimit, hlast, -, -⟩ := begin_limit hbegin
  rw [Nat.max_eq_left hevents] at hlimit
  have hslots (ops : List Op) (hquiet : ∀ op ∈ ops, ¬op.IsUpdate) (hshow : q.AllShow w ops) :
      ∃ slots : List Instant, q.answers w ops = slots.map some ∧
        ∀ t, (q.crowd t slots - 1) * q.spacing q.events < q.window := by
    refine ⟨(q.paced q.events none (beats ops)).map Spaced.slot, ?_, fun t => ?_⟩
    · rw [answers_paced hq ops (hlimit ▸ hevents) hshow, hlimit, hlast, List.map_map]
      rfl
    · refine crowd_mul_lt hq.window_pos (List.pairwise_map.2 ?_) t
      refine (pairwise_paced _).imp_of_mem fun {s s'} _ hs' hfollows => ?_
      rw [spacing_of_pos hevents, ← space_paced (isRequest_of_beats hquiet) s' hs']
      exact hfollows
  have hkeeps : q.Keeps w ↔ q.window ≤ q.events * q.spacing q.events := by
    refine ⟨fun hkeeps => Nat.not_lt.1 fun hshort => not_keeps hq hbegin hevents hshort hkeeps,
      fun hlong ops hquiet hshow slots hanswers t => ?_⟩
    obtain ⟨slots', hanswers', hcrowd⟩ := hslots ops hquiet hshow
    obtain rfl : slots' = slots :=
      (List.map_inj_right fun _ _ => Option.some.inj).1 (hanswers'.symm.trans hanswers)
    refine Nat.le_of_not_lt fun hmany => ?_
    have hmul := Nat.mul_le_mul_right (q.spacing q.events) (Nat.le_pred_of_lt hmany)
    exact absurd (hcrowd t) (Nat.not_lt.2 (Nat.le_trans hlong hmul))
  refine ⟨hslots, hkeeps, fun hsmall => hkeeps.trans ?_⟩
  rw [spacing_of_pos hevents, Nat.min_eq_left (Nat.le_sub_one_of_lt hsmall)]
  refine ⟨fun hlong => ?_, fun hdvd => Nat.le_of_eq (Nat.mul_div_cancel' hdvd).symm⟩
  exact ⟨_, Nat.le_antisymm hlong (Nat.mul_div_le _ _)⟩

/-- Four requests in 100 are kept, because four spaces of 25 make up a window. -/
theorem meter_within_four :
    let q : Quota := { events := 4, window := 100, pacing := .meter }
    let w : Window := { limit := 4, remaining := 4, reset := 100, last := none }
    q.PlainMeter ∧ q.begin? 0 = some w ∧ 0 < q.events ∧ q.window ≤ q.events * q.spacing q.events ∧
      q.Keeps w := by
  intro q w
  have hq : q.PlainMeter := ⟨rfl, rfl, by decide⟩
  have hbegin : q.begin? 0 = some w := by decide
  have hlong : q.window ≤ q.events * q.spacing q.events := by decide
  exact ⟨hq, hbegin, by decide, hlong, (meter_within_iff hq hbegin (by decide)).2.1.2 hlong⟩

/-- Of four requests at once, to a quota of three in 100 milliseconds, the last is given the last
nanosecond of the window of the first. -/
theorem meter_not_within :
    let q : Quota := { events := 3, window := 100 * millisecond, pacing := .meter }
    let w : Window := { limit := 3, remaining := 3, reset := 100000000, last := none }
    let ops : List Op := [.next 0, .next 0, .next 0, .next 0]
    q.PlainMeter ∧ q.begin? 0 = some w ∧ (∀ op ∈ ops, ¬op.IsUpdate) ∧ q.AllShow w ops ∧
      q.answers w ops = [some 0, some 33333333, some 66666666, some 99999999] ∧
      ¬∀ t, q.crowd t [0, 33333333, 66666666, 99999999] ≤ q.events :=
  ⟨⟨rfl, rfl, by decide⟩, by decide, by simp [Op.IsUpdate], by decide, by decide,
    fun h => absurd (h 0) (by decide)⟩

end Quota

end Courier
