import Courier.Proofs.Call.Piece

/-!
# How many waits a call has left

A call waits at its gate at most once, then for each request on its way, and before each request
that is sent again, of which there are `maxRetries`. `Call.Wait.left` counts the waits from one
on. The next wait of a call has fewer left, however its collaborators answer and whether it is
canceled or not (`Client.resume_left`).
-/

namespace Courier

namespace Call

/-- How many waits a call has left, with the present one. -/
def Wait.left : Wait → Nat
  | .gate => 2 * maxRetries + 2
  | .flight attempt _ => 2 * (maxRetries - attempt) + 1
  | .pause attempt => 2 * (maxRetries - attempt)

/-- A call pauses only while it has a sending left. -/
def Wait.Sound : Wait → Prop
  | .pause attempt => attempt < maxRetries
  | _ => True

/-- A call that waits has some waits left, fewer than a number. -/
def Progress.LeftBelow (bound : Nat) : Progress → Prop
  | .waits _ _ wait => wait.left < bound ∧ wait.Sound
  | .answered _ => True

end Call

namespace Client

open Call (Progress Wait)

variable {σ : Type} (client : Client σ)

theorem begin_left (id : Nat) (request : Request) (clock : Clock) (canceled : Bool) :
    (client.begin id request clock canceled).Yields (fun _ => True)
      (Progress.LeftBelow (2 * maxRetries + 3)) := by
  refine (client.prepare_yields trivial id request clock).bind fun c _ => ?_
  refine (client.askNext_yields c (by simp) trivial trivial).bind fun next _ => ?_
  refine (atGate_yields c (by simp) clock next).bind fun wake _ => ?_
  refine (client.enter_yields (P := fun _ => True) c (by simp) (by simp) trivial (by simp) clock
    canceled wake).mono (fun _ he => he) fun progress hp => ?_
  rcases hp with ⟨wake, result, rfl⟩ | ⟨wake, rfl⟩
  · exact ⟨by simp [Wait.left], trivial⟩
  · exact ⟨by simp [Wait.left], trivial⟩

/-- Every piece of a call takes it to a wait with fewer left. -/
theorem resume_left (c : Call) {wait : Wait} (hw : wait.Sound) (clock : Clock) (canceled : Bool) :
    (client.resume c wait clock canceled).Yields (fun _ => True)
      (Progress.LeftBelow wait.left) := by
  have htell (f : Failure) := client.tellFailure_yields (P := fun _ => True) c (by simp) f
  match wait with
  | .gate =>
    refine Act.yields_ite (fun _ => Act.yields_fail _) fun _ => ?_
    refine (client.launch_yields (P := fun _ => True) c (by simp) (by simp) trivial (by simp) clock
      canceled).mono (fun _ => id) fun progress hp => ?_
    obtain ⟨wake, result, rfl⟩ := hp
    exact ⟨by simp [Wait.left], trivial⟩
  | .pause attempt =>
    have hleft : attempt < maxRetries := hw
    refine ((client.send_yields c trivial clock canceled (attempt + 1)).beforeFailing htell).mono
      (fun _ => id) fun progress hp => ?_
    obtain ⟨wake, result, rfl⟩ := hp
    refine ⟨?_, trivial⟩
    simp only [Wait.left]
    omega
  | .flight attempt result =>
    unfold resume
    have hlanded := Act.yields_ite (c := canceled = true) (fun _ => Act.yields_fail .canceled)
      fun _ => client.land_yields (P := fun _ => True) c (by simp) (by simp) clock attempt result
    refine (hlanded.beforeFailing htell).bind fun progress hp => ?_
    rcases hp with ⟨wake, rfl, hleft⟩ | ⟨response, rfl⟩
    · exact Act.yields_pure ⟨by simp [Wait.left], hleft⟩
    · refine (client.conclude_yields c (by simp) (by simp) _ _).mono (fun _ => id) fun _ hp => ?_
      obtain ⟨_, rfl⟩ := hp
      trivial

/-- A call that is followed through all of its waits has its result. -/
theorem isSome_follow (cancel : Option Instant) (n : Nat) :
    ∀ (progress : Answer Failure Progress) (s : Scene σ),
      (∀ p, progress = .ok p → p.LeftBelow (n + 1)) →
        (result? (client.follow cancel n progress s).1).isSome := by
  induction n with
  | zero =>
    rintro (stop | ⟨c, wake, wait⟩ | response) s hleft
    · rfl
    · obtain ⟨hleft, hsound⟩ := hleft _ rfl
      cases wait <;> simp [Wait.left, Wait.Sound] at hleft hsound
      omega
    · rfl
  | succ n ih =>
    rintro (stop | ⟨c, wake, wait⟩ | response) s hleft
    · rfl
    · obtain ⟨hleft, hsound⟩ := hleft _ rfl
      refine ih _ _ fun p hp => ?_
      have hbelow := Scene.perform_value (client.resume_left c hsound _ _) (Prod.ext hp rfl)
      cases p with
      | waits => exact ⟨by have := hbelow.1; omega, hbelow.2⟩
      | answered => trivial
    · rfl

/-- A run has a result. -/
theorem isSome_run (id : Nat) (request : Request) (cancel : Option Instant) (s : Scene σ) :
    ((client.run id request cancel s).1).isSome :=
  client.isSome_follow cancel maxWaits _ _ fun _ hp =>
    Scene.perform_value (client.begin_left id request s.clock _) (Prod.ext hp rfl)

end Client

end Courier
