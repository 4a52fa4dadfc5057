import Courier.Proofs.Call.Sends
import Courier.Proofs.Clock

/-!
# When a request is sent

A call that runs alone waits at its gate until the instant that the limiter gave, and between two
sendings until the instant at which the limiter wants the second, or for a delay that grows with
the number of sendings, for a status that is tried again (`Client.due`). Each of these waits ends
at the first whole millisecond that is not before its time (`Client.send_times`). If responses
come at once, nothing else takes time.
-/

namespace Courier

open Instant (OnClock FirstMillis)

namespace Client

open Call (Progress)

variable {σ : Type} (client : Client σ) (c : Call)

/-- When a request is to be sent again at the earliest, after a reply at an instant. -/
def due (attempt : Nat) (now : Instant) : Reply → Instant
  | .heard _ (some (.retry after)) => max now after
  | _ => now + (client.backoff * (attempt + 1) : Nat)

/-- Responses come at once. -/
def Prompt : Prop :=
  ∀ now request world, (client.transport now request world).1.after = 0

/-! ## Clocks of the sendings -/

theorem le_due (attempt : Nat) (now : Instant) (reply : Reply) :
    now ≤ client.due attempt now reply := by
  unfold due
  split <;> lia

/-- A call is put off until it is due. -/
theorem wake_delayAfter {attempt : Nat} {now : Instant} {reply : Reply} (hnow : now.OnClock)
    (hdue : client.due attempt now reply ≤ maxInstant) :
    now.wake (client.delayAfter attempt now reply) =
      (client.due attempt now reply).ceilMillis := by
  match reply with
  | .heard _ (some (.retry after)) => exact Instant.wake_since hdue
  | .fault _ | .crashed _ | .heard _ none | .heard _ (some (.invalidHeader ..))
  | .heard _ (some (.other _)) =>
    change now + (client.backoff * (attempt + 1) : Nat) ≤ maxInstant at hdue
    change now.wake (client.backoff.times (attempt + 1)) = _
    rw [Duration.times_of_onClock hnow hdue, Instant.wake_of_le hdue]
    rfl

theorem exchange_clock (s : Scene σ) :
    (client.exchange c s).2.clock.now =
      s.clock.now.wake (client.transport s.clock.now c.request s.world).1.after := by
  unfold exchange
  rw [receive_clock]
  rfl

theorem again_clock (attempt : Nat) (reply : Reply) (s : Scene σ) :
    (client.again c attempt reply s).clock.now =
      s.clock.now.wake (client.delayAfter attempt s.clock.now reply) :=
  rfl

/-- A prompt response comes at the time of the sending. -/
theorem replied_clock (hprompt : client.Prompt) {s : Scene σ} {n : Nat}
    (hmillis : (millisecond : Int) ∣ (client.sending c s n).clock.now)
    (hle : (client.sending c s n).clock.now ≤ maxInstant) :
    (client.replied c s n).clock.now = (client.sending c s n).clock.now := by
  unfold replied
  rw [exchange_clock, hprompt, Instant.wake_zero hmillis hle]

/-- Sendings come at whole milliseconds, if the first does. -/
theorem millisecond_dvd_sending {s : Scene σ} (h : (millisecond : Int) ∣ s.clock.now) :
    ∀ n, (millisecond : Int) ∣ (client.sending c s n).clock.now
  | 0 => h
  | n + 1 => by
    simp only [sending, again_clock]
    exact Instant.millisecond_dvd_wake _ _

/-- Time does not go back between sendings. -/
theorem le_sending (s : Scene σ) (n : Nat) : s.clock.now ≤ (client.sending c s n).clock.now := by
  induction n with
  | zero => exact Int.le_refl _
  | succ n ih =>
    simp only [sending, again_clock]
    refine Int.le_trans ih (Int.le_trans ?_ (Instant.le_wake _ _))
    rw [exchange_clock]
    exact Instant.le_wake _ _

/-- The sending after one comes when it is due. -/
theorem firstMillis_sending (hprompt : client.Prompt) {s : Scene σ} {n : Nat}
    (hmillis : (millisecond : Int) ∣ s.clock.now) (hlow : maxInstant - maxDuration ≤ s.clock.now)
    (hdue : client.due n (client.sending c s n).clock.now (client.reply c s n) ≤ maxInstant) :
    FirstMillis (client.due n (client.sending c s n).clock.now (client.reply c s n))
      (client.sending c s (n + 1)).clock.now := by
  have hle := Int.le_trans (client.le_due _ _ _) hdue
  have hon : OnClock (client.sending c s n).clock.now :=
    ⟨Int.le_trans hlow (client.le_sending c s n), hle⟩
  have hreplied := client.replied_clock c hprompt (client.millisecond_dvd_sending c hmillis n) hle
  have hnext : (client.sending c s (n + 1)).clock.now =
      (client.replied c s n).clock.now.wake
        (client.delayAfter n (client.replied c s n).clock.now (client.reply c s n)) := rfl
  rw [hnext, hreplied, client.wake_delayAfter hon hdue]
  exact Instant.firstMillis_ceilMillis _

/-! ## The first sending -/

/-- When a call may be sent for the first time, if it comes at an instant. -/
def opening (start : Instant) : Option Instant → Instant
  | none => start
  | some next => max start next

theorem le_opening (start : Instant) (next : Option Instant) : start ≤ opening start next := by
  cases next with
  | none => exact Int.le_refl _
  | some next => exact Int.le_max_left _ _

/-- The gate opens at the first whole millisecond that the limiter allows. -/
theorem wake_opening {now : Instant} {next : Option Instant} (hmillis : (millisecond : Int) ∣ now)
    (hopening : opening now next ≤ maxInstant) :
    let delay := (next.map (·.since now)).getD 0
    (if delay = 0 then none else some (now.wake delay)).getD now =
      (opening now next).ceilMillis := by
  cases next with
  | none => exact (Instant.ceilMillis_of_dvd hmillis).symm
  | some next =>
    change max now next ≤ maxInstant at hopening
    by_cases hpast : next.since now = 0
    · have hmax : max now next = now := by
        unfold Instant.since at hpast
        lia
      simp [hpast, opening, hmax, Instant.ceilMillis_of_dvd hmillis]
    · simp [hpast, opening, Instant.wake_since hopening]

/-- A call gets to its first sending when its gate opens. -/
theorem approach_clock {id : Nat} {request : Request} {s s' : Scene σ} {c : Call}
    {next : Option Instant} (h : client.approach id request s = (.ok (c, next), s'))
    (hmillis : (millisecond : Int) ∣ s.clock.now)
    (hopening : opening s.clock.now next ≤ maxInstant) :
    s'.clock.now = (opening s.clock.now next).ceilMillis := by
  unfold approach at h
  obtain ⟨_ | c, s₁, hprepare, h₁⟩ := s.exists_perform (client.prepare id request s.clock) <;>
    simp only [hprepare] at h
  · cases h
  obtain ⟨_ | next, s₂, hask, h₂⟩ := s₁.exists_perform (client.askNext c) <;> simp only [hask] at h
  · cases h
  obtain ⟨_ | wake, s₃, hgate, h₃⟩ := s₂.exists_perform (atGate c s₂.clock next) <;>
    simp only [hgate] at h
  · cases h
  have hwake :=
    Scene.perform_value (atGate_yields (P := fun _ => True) c (by simp) s₂.clock next) hgate
  obtain ⟨_ | _, s₄, hannounce, h₄⟩ :=
    (s₃.later (wake.getD s₃.clock.now)).exists_perform (client.announce c) <;>
    simp only [hannounce] at h
  · cases h
  cases h
  have hnow : s₂.clock.now = s.clock.now := by rw [h₂, h₁]
  rw [h₄, Scene.later_clock_now, h₃, hwake, hnow, wake_opening hmillis hopening]

/-! ## All sendings -/

/-- The sendings of a call, up to the last, come as early as they may. None comes before an instant
that the limiter wants. -/
structure Timetable (c : Call) (s : Scene σ) (opening : Instant) (last : Nat)
    (time : Nat → Instant) : Prop where
  /-- The first sending comes when the gate opens. -/
  first : FirstMillis opening (time 0)
  /-- A reply comes at the time of its sending. -/
  replied : ∀ m ≤ last, time m ≤ maxInstant → (client.replied c s m).clock.now = time m
  /-- The request is sent again when it is due after the reply. -/
  again : ∀ m < last, client.due m (time m) (client.reply c s m) ≤ maxInstant →
    FirstMillis (client.due m (time m) (client.reply c s m)) (time (m + 1))

/-- The times of all sendings are those of a timetable, as far as they are on the clock, and the
run ends at the time of the last. -/
theorem send_times (id : Nat) (request : Request) (s : Scene σ) (hprompt : client.Prompt)
    (hmillis : (millisecond : Int) ∣ s.clock.now) (hstart : s.clock.now.OnClock) :
    match client.approach id request s with
    | (.error stop, s') =>
      client.run id request none s = (some (.error stop), s') ∧ s'.log.sends = s.log.sends
    | (.ok (c, next), s') =>
      ∃ (last : Nat) (time : Nat → Instant),
        client.Last c s' last ∧
        (client.run id request none s).2.log.sends =
          s.log.sends ++ (List.range (last + 1)).map (time ·, c.request) ∧
        (opening s.clock.now next ≤ maxInstant →
          client.Timetable c s' (opening s.clock.now next) last time ∧
          (time last ≤ maxInstant → (client.run id request none s).2.clock.now = time last)) := by
  have hrun := client.run_eq id request s
  have hsends := client.sends_approach id request s
  rcases happroach : client.approach id request s with ⟨stop | ⟨c, next⟩, s'⟩ <;>
    rw [happroach] at hrun hsends
  · exact ⟨hrun, hsends⟩
  obtain ⟨last, hlast, hrun⟩ := hrun
  refine ⟨last, fun m => (client.sending c s' m).clock.now, hlast, ?_, fun hopening => ?_⟩
  · rw [hrun, sends_complete, hsends]
  have hfirst := client.approach_clock happroach hmillis hopening
  have hmillis' : (millisecond : Int) ∣ s'.clock.now :=
    hfirst ▸ Instant.millisecond_dvd_ceilMillis _
  have hlow : maxInstant - maxDuration ≤ s'.clock.now :=
    calc maxInstant - maxDuration ≤ s.clock.now := hstart.1
      _ ≤ opening s.clock.now next := le_opening _ _
      _ ≤ s'.clock.now := hfirst ▸ Instant.le_ceilMillis _
  have hreplied (m : Nat) :=
    client.replied_clock c hprompt (client.millisecond_dvd_sending c hmillis' m)
  refine ⟨⟨?_, fun m _ hle => hreplied m hle, fun m _ hdue => ?_⟩, fun hle => ?_⟩
  · change FirstMillis _ s'.clock.now
    exact hfirst ▸ Instant.firstMillis_ceilMillis _
  · exact client.firstMillis_sending c hprompt hmillis' hlow hdue
  · rw [hrun]
    exact hreplied last hle

end Client

/-- A client whose limiter lets calls through after one and a half milliseconds. The first response
is one to try again. -/
def Client.patient : Client Nat where
  base := none
  limiter := some {
    report := fun now n => (.ok ⟨0, 0, now⟩, n)
    next := fun _ _ n => (.ok 1500000, n)
    update := fun _ _ _ n => (.ok (), n) }
  transport := fun _ _ n => (⟨0, .ok ⟨if n = 0 then 503 else 200, none, {}, none, none⟩⟩, n + 1)
  retryStatuses := [503]
  backoff := 2300000
  headers := {}
  contentType := ""
  tracing := {}

theorem Client.send_times_patient :
    let s : Scene Nat := { clock := ⟨0, 0⟩, world := 0 }
    let ran := patient.run 0 { target := "mem:a" } none s
    ran.2.log.sends.map Prod.fst = [2000000, 5000000] ∧
    ∃ c s' last time, patient.approach 0 { target := "mem:a" } s = (.ok (c, some 1500000), s') ∧
      patient.Last c s' last ∧
      ran.2.log.sends = (List.range (last + 1)).map (time ·, c.request) ∧
      patient.Timetable c s' 1500000 last time := by
  intro s ran
  have hnext : (patient.approach 0 { target := "mem:a" } s).1.toOption.map Prod.snd =
      some (some 1500000) := by decide +kernel
  refine ⟨by decide +kernel, ?_⟩
  have hprompt : patient.Prompt := fun _ _ _ => rfl
  -- Nothing below is to compute what this client does.
  subst ran
  generalize patient = client at hprompt hnext ⊢
  have htimes := client.send_times 0 { target := "mem:a" } s hprompt (by decide) (by decide)
  rcases happroach : client.approach 0 { target := "mem:a" } s with ⟨stop | ⟨c, next⟩, s'⟩ <;>
    rw [happroach] at htimes hnext
  · cases hnext
  · cases hnext
    obtain ⟨last, time, hlast, hsends, htable⟩ := htimes
    exact ⟨c, s', last, time, rfl, hlast, hsends, (htable (by decide)).1⟩

end Courier
