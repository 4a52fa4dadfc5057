import Courier.Proofs.Quota.History
import Courier.Proofs.Quota.Rolling
import Mathlib.Order.Bounds.Basic

/-!
# Inquiries between requests

A window that is over moves on to the first later window that ends after the present instant
(`Window.exists_isLeast_roll?`), while the clock has room to roll it (`Window.Room`). Which one that
is does not depend on earlier rolls, so of two rolls only the later one counts
(`Window.roll?_roll?`).

An inquiry does nothing to a quota but roll its window. After any inquiries the window is still one
that rolls as it would have without them (`Window.Follows`), which is all that the next request
looks at. So requests are given the same instants whatever inquiries are made between them
(`Quota.answers_requests`).
-/

namespace Courier

namespace Window

variable {w v : Window} {length : Duration} {now later : Instant}

/-- The ends of all windows after one. -/
def laterEnds (w : Window) (length : Duration) : Set Instant :=
  {t | ∃ k : Nat, 1 ≤ k ∧ t = w.reset + k * length}

/-! ## Room -/

/-- The clock has room if the way from the reset to the end of a window that begins now is less than
2^64 nanoseconds, and it shows that end. -/
theorem room_of_lt (hway : now - w.reset + length < 2 ^ 64)
    (hend : now + length ≤ maxInstant) : w.Room length now := by
  by_cases hgoes : now < w.reset
  · exact .inl hgoes
  have hsince : (now.since w.reset : Int) = now - w.reset := by
    unfold Instant.since
    lia
  have hwhole := Nat.mul_div_le (now.since w.reset) length
  have hstep : length * (now.since w.reset / length + 1) < 2 ^ 64 := by
    rw [Nat.mul_add_one]
    lia
  exact .inr (.inr ⟨hend, Nat.le_pred_of_lt hstep⟩)

/-- The clock has room at earlier instants too, and for windows that end later. -/
theorem Room.mono (h : w.Room length later) (hnow : now ≤ later) (hreset : w.reset ≤ v.reset) :
    v.Room length now := by
  rcases h with hgoes | hzero | ⟨hend, hstep⟩
  · exact .inl (by lia)
  · exact .inr (.inl hzero)
  · have hsince : now.since v.reset ≤ later.since w.reset := by
      unfold Instant.since
      lia
    have hwhole : now.since v.reset / length ≤ later.since w.reset / length :=
      Nat.div_le_div_right hsince
    refine .inr (.inr ⟨by lia, le_trans ?_ hstep⟩)
    exact Nat.mul_le_mul_left length (Nat.succ_le_succ hwhole)

/-! ## Where rolling ends -/

theorem end_lt_end_iff (hlength : 0 < length) {n k : Nat} :
    w.reset + n * length < w.reset + k * length ↔ n < k := by
  rw [Int.add_lt_add_iff_left, ← Int.natCast_mul, ← Int.natCast_mul, Int.ofNat_lt]
  exact Nat.mul_lt_mul_right hlength

theorem roll?_of_lt (hgoes : now < w.reset) : w.roll? length now = some w :=
  if_pos (.inl hgoes)

/-- A window that is over moves on to the first later one that ends after the present instant. -/
theorem exists_isLeast_roll? (hlength : 0 < length) (hover : w.reset ≤ now)
    (hroom : w.Room length now) :
    ∃ reset, IsLeast {t | t ∈ w.laterEnds length ∧ now < t} reset ∧
      w.roll? length now = some { w with reset, remaining := w.limit } := by
  obtain ⟨hend, hstep⟩ := (hroom.resolve_left (Int.not_lt.2 hover)).resolve_left hlength.ne'
  obtain ⟨n, hpos, hafter, hfirst, hroll⟩ := exists_roll? hlength hover hend hstep
  refine ⟨w.reset + n * length, ⟨⟨⟨n, hpos, rfl⟩, hafter⟩, ?_⟩, hroll⟩
  rintro t ⟨⟨k, -, rfl⟩, hk⟩
  have hnext : w.reset + n * length < w.reset + (k + 1 : Nat) * length := by
    rw [Int.natCast_add, Int.add_mul]
    lia
  refine Int.not_lt.1 fun hlt => ?_
  have hbefore := (end_lt_end_iff hlength).1 hlt
  have hbehind := (end_lt_end_iff hlength).1 hnext
  omega

/-- The windows after a later one end at the same instants, from its end on. -/
theorem laterEnds_of_mem {reset : Instant} (hlength : 0 < length)
    (hreset : reset ∈ w.laterEnds length) (hlater : reset ≤ later) :
    {t | t ∈ laterEnds { w with reset, remaining := w.limit } length ∧ later < t} =
      {t | t ∈ w.laterEnds length ∧ later < t} := by
  obtain ⟨n, hpos, rfl⟩ := hreset
  ext t
  refine and_congr_left fun ht => ⟨?_, ?_⟩
  · rintro ⟨k, hk, rfl⟩
    exact ⟨n + k, by lia, by simp only [Int.natCast_add, Int.add_mul]; lia⟩
  · rintro ⟨k, hk, rfl⟩
    have hlt : n < k := (end_lt_end_iff hlength).1 (Int.lt_of_le_of_lt hlater ht)
    obtain ⟨d, rfl⟩ := Nat.exists_eq_add_of_lt hlt
    exact ⟨d + 1, by lia, by simp only [Int.natCast_add, Int.add_mul]; lia⟩

/-- Of two rolls only the later one counts. -/
theorem roll?_roll? (hroom : w.Room length later) (hle : now ≤ later) :
    (w.roll? length now).bind (·.roll? length later) = w.roll? length later := by
  by_cases hzero : length = 0
  · have hsame (t : Instant) : w.roll? length t = some w := if_pos (.inr hzero)
    simp [hsame]
  have hlength := Nat.pos_of_ne_zero hzero
  by_cases hgoes : now < w.reset
  · rw [roll?_of_lt hgoes, Option.bind_some]
  have hover := Int.not_lt.1 hgoes
  obtain ⟨reset, hleast, hroll⟩ :=
    exists_isLeast_roll? hlength hover (hroom.mono hle (Int.le_refl _))
  obtain ⟨reset', hleast', hroll'⟩ :=
    exists_isLeast_roll? hlength (Int.le_trans hover hle) hroom
  rw [hroll, hroll', Option.bind_some]
  by_cases hstill : later < reset
  · rw [roll?_of_lt hstill]
    have hsame : IsLeast {t | t ∈ w.laterEnds length ∧ later < t} reset :=
      ⟨⟨hleast.1.1, hstill⟩, fun t ht => hleast.2 ⟨ht.1, Int.lt_of_le_of_lt hle ht.2⟩⟩
    rw [hsame.unique hleast']
  · have hpast := Int.not_lt.1 hstill
    have hmoved : w.reset ≤ reset := Int.le_trans hover (Int.le_of_lt hleast.1.2)
    obtain ⟨reset'', hleast'', hroll''⟩ :=
      exists_isLeast_roll? (w := { w with reset, remaining := w.limit }) hlength hpast
        (hroom.mono (Int.le_refl _) hmoved)
    rw [laterEnds_of_mem hlength hleast.1.1 hpast] at hleast''
    rw [hroll'', hleast''.unique hleast']

/-- From an instant on a window rolls as another one does. -/
def Follows (length : Duration) (w v : Window) (start : Instant) : Prop :=
  ∀ t, start ≤ t → w.Room length t → v.roll? length t = w.roll? length t

end Window

namespace Quota

variable {q : Quota} {w v : Window} {now start : Instant} {ops : List Op}

/-! ## Inquiries -/

/-- A window that is asked about rolls on as before. -/
theorem follows_report (h : Window.Follows q.window w v start) (hstart : start ≤ now) :
    Window.Follows q.window w (q.report v now).2 now := by
  intro t ht hroom
  have hnow : w.Room q.window now := hroom.mono ht (Int.le_refl _)
  obtain ⟨w', hroll, -⟩ := w.exists_roll hnow
  have hreport : (q.report v now).2 = w' := by
    simp [report, h now hstart hnow, hroll]
  rw [hreport, ← Window.roll?_roll? hroom ht, hroll, Option.bind_some]

/-- What a request does depends only on how the window rolls. -/
theorem next_of_follows (h : Window.Follows q.window w v start) (hstart : start ≤ now)
    (hroom : w.Room q.window now) : q.next v now = q.next w now := by
  have hsame := h now hstart hroom
  unfold next
  by_cases hzero : q.window = 0
  · have hstill (u : Window) : u.roll? q.window now = some u := if_pos (.inr hzero)
    rw [hstill, hstill] at hsame
    rw [Option.some.inj hsame]
  · obtain ⟨w', hroll, -⟩ := w.exists_roll hroom
    simp only [if_neg hzero, hsame, hroll]

/-! ## Runs -/

/-- A call that asks for an instant. -/
def Op.isRequest : Op → Bool
  | .next _ => true
  | _ => false

/-- A call that tells of a response. -/
def Op.isUpdate : Op → Bool
  | .update .. => true
  | _ => false

/-- The requests among some calls. -/
def requests (ops : List Op) : List Op :=
  ops.filter Op.isRequest

/-- The clock has room to roll the window at each of some calls. -/
def RoomFor (q : Quota) (w : Window) : List Op → Prop
  | [] => True
  | op :: ops => w.Room q.window op.instant ∧ q.RoomFor (q.after w op) ops

/-- Requests are given the same instants whatever inquiries are made between them. -/
theorem answers_requests_of_follows (h : Window.Follows q.window w v start)
    (hupdates : ∀ op ∈ ops, ¬op.isUpdate) (hstart : ∀ op ∈ ops, start ≤ op.instant)
    (hordered : ops.Pairwise (·.instant ≤ ·.instant)) (hroom : q.RoomFor w (requests ops)) :
    q.answers v ops = q.answers w (requests ops) := by
  induction ops generalizing w v start with
  | nil => rfl
  | cons op ops ih =>
    obtain ⟨hupdate, hothers⟩ := List.forall_mem_cons.1 hupdates
    obtain ⟨hfirst, hrest⟩ := List.forall_mem_cons.1 hstart
    obtain ⟨hlater, hpairs⟩ := List.pairwise_cons.1 hordered
    cases op with
    | update clock status headers => exact absurd rfl hupdate
    | report now => exact ih (follows_report h hfirst) hothers hlater hpairs hroom
    | next now =>
      have hnext : q.next v now = q.next w now := next_of_follows h hfirst hroom.1
      have hrequests : requests (.next now :: ops) = .next now :: requests ops := rfl
      rw [hrequests, answers, answers, hnext]
      refine congrArg _ (ih ?_ hothers hlater hpairs hroom.2)
      exact fun _ _ _ => rfl

/-- While the clock has room, rolling a window leaves it as long as it goes on, and after that fills
it again and moves its reset to the first end of a later window that is after the present instant.
So of two rolls only the later one counts, and requests are given the same instants whatever
inquiries are made between them. -/
theorem rolling_exact (q : Quota) (w : Window) (hwindow : 0 < q.window) :
    (∀ now : Instant, now - w.reset + q.window < 2 ^ 64 → now + q.window ≤ maxInstant →
      w.Room q.window now) ∧
    (∀ now, now < w.reset → w.roll? q.window now = some w) ∧
    (∀ now, w.reset ≤ now → w.Room q.window now →
      ∃ reset, IsLeast {t | t ∈ w.laterEnds q.window ∧ now < t} reset ∧
        w.roll? q.window now = some { w with reset, remaining := w.limit }) ∧
    (∀ now later, now ≤ later → w.Room q.window later →
      (w.roll? q.window now).bind (·.roll? q.window later) = w.roll? q.window later) ∧
    ∀ ops : List Op, (∀ op ∈ ops, ¬op.isUpdate) → ops.Pairwise (·.instant ≤ ·.instant) →
      q.RoomFor w (requests ops) → q.answers w ops = q.answers w (requests ops) := by
  refine ⟨fun now => Window.room_of_lt, fun now => Window.roll?_of_lt, ?_, ?_, ?_⟩
  · exact fun now hover hroom => Window.exists_isLeast_roll? hwindow hover hroom
  · exact fun now later hle hroom => Window.roll?_roll? hroom hle
  · intro ops hupdates hordered hroom
    cases ops with
    | nil => rfl
    | cons op ops =>
      have hfirst : ∀ op' ∈ op :: ops, op.instant ≤ op'.instant :=
        List.forall_mem_cons.2 ⟨Int.le_refl _, (List.pairwise_cons.1 hordered).1⟩
      have hself : Window.Follows q.window w w op.instant := fun _ _ _ => rfl
      exact answers_requests_of_follows hself hupdates hfirst hordered hroom

/-- Two requests in a window of 100, asked about while it goes on, when it ends and after several
idle windows : the reset moves from 100 to 300 at 200 and at 299, the third request at 299 is put
off to 300, and the one at 512 is not. -/
theorem rolling_exact_idle :
    let q : Quota := { events := 2, window := 100 }
    let w : Window := { limit := 2, remaining := 0, reset := 100, last := none }
    let ops : List Op := [.report 40, .report 100, .next 200, .report 299, .next 299, .report 299,
      .next 299, .report 410, .report 512, .next 512]
    0 < q.window ∧ w.roll? q.window 99 = some w ∧
      (∃ reset, IsLeast {t | t ∈ w.laterEnds q.window ∧ (200 : Instant) < t} reset ∧
        w.roll? q.window 200 = some { w with reset, remaining := 2 }) ∧
      (w.roll? q.window 200).bind (·.roll? q.window 512) = w.roll? q.window 512 ∧
      q.RoomFor w (requests ops) ∧
      q.answers w ops = q.answers w [.next 200, .next 299, .next 299, .next 512] ∧
      q.answers w ops = [some 200, some 299, some 300, some 512] := by
  intro q w ops
  have hwindow : 0 < q.window := by decide
  obtain ⟨hnear, hgoes, hover, htwice, hruns⟩ := rolling_exact q w hwindow
  have hroom : q.RoomFor w (requests ops) :=
    ⟨hnear 200 (by decide) (by decide), by decide, by decide, by decide, trivial⟩
  exact ⟨hwindow, hgoes 99 (by decide), hover 200 (by decide) hroom.1,
    htwice 200 512 (by decide) (by decide), hroom,
    hruns ops (by decide) (by decide) hroom, by decide⟩

end Quota

end Courier
