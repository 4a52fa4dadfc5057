import Courier.Proofs.Call.Sends
import Courier.Proofs.Call.Chronicle

/-!
# Where requests come from

What a call sends is made from the request that it was begun with, in the world that it was begun
in (`Client.Makes`) : the request is resolved, the authorizer is asked for its credentials in this
world, and the client's headers are added. A call that waits carries the request that it sends
(`Call.Progress.Carries`), and no piece of it makes another one. So whatever a run sends is made
from its request (`Client.run_makes`).
-/

namespace Courier

/-- An event sends only requests with a property. -/
def Event.Sends (P : Outgoing → Prop) (e : Event) : Prop :=
  ∀ r, e.sent? = some r → P r

theorem Event.sends_of_none {P : Outgoing → Prop} {e : Event} (h : e.sent? = none) : e.Sends P := by
  simp [Sends, h]

theorem Event.sends_of {P : Outgoing → Prop} {r : Outgoing} (h : P r) :
    (Event.sends r).Sends P := by
  simpa [Sends, sent?] using h

/-- A call that waits carries a request with a property. -/
def Call.Progress.Carries (P : Outgoing → Prop) : Call.Progress → Prop
  | .waits c _ _ => P c.request
  | .answered _ => True

/-- From one scene to another, only requests with a property are sent. -/
def Scene.Sends {σ : Type} (s : Scene σ) (P : Outgoing → Prop) (s' : Scene σ) : Prop :=
  ∃ added, s'.log.sends = s.log.sends ++ added ∧ ∀ sent ∈ added, P sent.2

namespace Scene.Sends

variable {σ α : Type} {P P' : Outgoing → Prop} {s s' s'' : Scene σ}

theorem of_sends_eq (h : s'.log.sends = s.log.sends) : s.Sends P s' :=
  ⟨[], by rw [h, List.append_nil], nofun⟩

theorem refl (s : Scene σ) : s.Sends P s :=
  of_sends_eq rfl

theorem trans (h : s.Sends P s') (h' : s'.Sends P s'') : s.Sends P s'' := by
  obtain ⟨added, hlog, hadded⟩ := h
  obtain ⟨added', hlog', hadded'⟩ := h'
  refine ⟨added ++ added', by rw [hlog', hlog, List.append_assoc], fun sent hsent => ?_⟩
  exact (List.mem_append.1 hsent).elim (hadded sent) (hadded' sent)

theorem mono (h : s.Sends P s') (hP : ∀ r, P r → P' r) : s.Sends P' s' := by
  obtain ⟨added, hlog, hadded⟩ := h
  exact ⟨added, hlog, fun sent hsent => hP _ (hadded sent hsent)⟩

/-- What is sent in a scene is what the piece sends that is performed in it. -/
theorem perform {act : Act σ α} {Q : α → Prop} (h : act.YieldsAt s.world (Event.Sends P) Q) :
    s.Sends P (s.perform act).2 ∧ ∀ a, (s.perform act).1 = .ok a → Q a := by
  obtain ⟨answer, w', added, hrun, hadded, hvalue⟩ := h
  rw [Scene.perform_of_run hrun]
  refine ⟨⟨Timeline.sends (added.map (s.clock.now, ·)), Timeline.sends_append _ _, ?_⟩, hvalue⟩
  intro sent hsent
  obtain ⟨⟨t, e⟩, hmem, hsent⟩ := List.mem_filterMap.1 hsent
  obtain ⟨e', he', heq⟩ := List.mem_map.1 hmem
  obtain ⟨r, hr, rfl⟩ := Option.map_eq_some_iff.1 hsent
  cases heq
  exact hadded e he' r hr

end Scene.Sends

namespace Client

open Call (Progress Wait)

variable {σ : Type} (client : Client σ) {P : Outgoing → Prop}

/-- What a client makes of a request in a world. -/
def Makes (w : σ) (request : Request) (r : Outgoing) : Prop :=
  ∃ resolved authorized, request.resolve client.base = .ok resolved ∧
    (match client.authorizer with
      | none => authorized = resolved
      | some authorizer => (authorizer resolved w).1 = .ok authorized) ∧
    r = { authorized with headers := authorized.headers.withDefaults client.headers }

/-! ## Pieces of a call -/

theorem prepare_makes (id : Nat) (request : Request) (clock : Clock) (w : σ) :
    (client.prepare id request clock).YieldsAt w (Event.Sends P)
      fun c => client.Makes w request c.request := by
  unfold prepare
  cases hresolve : request.resolve client.base with
  | error f => exact Act.yields_fail f w
  | ok resolved =>
    cases hauthorizer : client.authorizer with
    | none =>
      have hmakes : client.Makes w request
          { resolved with headers := resolved.headers.withDefaults client.headers } :=
        ⟨resolved, resolved, hresolve, by rw [hauthorizer], rfl⟩
      exact Act.yields_pure (Q := fun c : Call => client.Makes w request c.request) hmakes w
    | some authorizer =>
      have hasked := Act.yieldsAt_record_bind (P := Event.Sends P) (e := .authorizes) (w := w)
        nofun (Act.yieldsAt_ask .authorization (authorizer resolved))
      refine hasked.bind fun authorized hanswer => Act.yields_pure ?_
      exact ⟨resolved, authorized, hresolve, by rw [hauthorizer]; exact hanswer, rfl⟩

/-- A call that begins carries a request that is made from its own. -/
theorem begin_makes (id : Nat) (request : Request) (clock : Clock) (canceled : Bool) (w : σ) :
    (client.begin id request clock canceled).YieldsAt w (Event.Sends (client.Makes w request))
      (Progress.Carries (client.Makes w request)) := by
  refine (client.prepare_makes id request clock w).bind fun c hc => ?_
  have hnone {e : Event} (he : e.sent? = none) : e.Sends (client.Makes w request) :=
    Event.sends_of_none he
  refine (client.askNext_yields c (fun _ => hnone rfl) (hnone rfl) (hnone rfl)).bind
    fun next _ => ?_
  refine (atGate_yields c (fun _ => hnone rfl) clock next).bind fun wake _ => ?_
  refine (client.enter_yields c (fun _ => hnone rfl) (fun _ => hnone rfl) (Event.sends_of hc)
    (fun _ _ => hnone rfl) clock canceled wake).mono (fun _ he => he) fun progress hp => ?_
  rcases hp with ⟨wake, result, rfl⟩ | ⟨wake, rfl⟩
  · exact hc
  · exact hc

variable {client} {c : Call}

/-- A call sends the request that it carries, and goes on with it. -/
theorem resume_makes (hc : P c.request) (wait : Wait) (clock : Clock) (canceled : Bool) :
    (client.resume c wait clock canceled).Yields (Event.Sends P) (Progress.Carries P) := by
  have hnone {e : Event} (he : e.sent? = none) : e.Sends P := Event.sends_of_none he
  have htell (f : Failure) := client.tellFailure_yields (P := Event.Sends P) c
    (fun _ _ => hnone rfl) f
  match wait with
  | .gate =>
    refine Act.yields_ite (fun _ => Act.yields_fail _) fun _ => ?_
    refine (client.launch_yields c (fun _ => hnone rfl) (fun _ => hnone rfl) (Event.sends_of hc)
      (fun _ _ => hnone rfl) clock canceled).mono (fun _ he => he) fun progress hp => ?_
    obtain ⟨wake, result, rfl⟩ := hp
    exact hc
  | .pause attempt =>
    refine ((client.send_yields c (Event.sends_of hc) clock canceled (attempt + 1)).beforeFailing
      htell).mono (fun _ he => he) fun progress hp => ?_
    obtain ⟨wake, result, rfl⟩ := hp
    exact hc
  | .flight attempt result =>
    unfold resume
    have hlanded := Act.yields_ite (c := canceled = true) (fun _ => Act.yields_fail .canceled)
      fun _ => client.land_yields c (fun _ => hnone rfl) (fun _ => hnone rfl) clock attempt result
    refine (hlanded.beforeFailing htell).bind fun progress hp => ?_
    rcases hp with ⟨wake, rfl, -⟩ | ⟨response, rfl⟩
    · exact Act.yields_pure hc
    · refine (client.conclude_yields c (fun _ => hnone rfl) (fun _ _ => hnone rfl) _ _).mono
        (fun _ he => he) fun _ hp => ?_
      obtain ⟨_, rfl⟩ := hp
      trivial

/-! ## Runs -/

/-- A call that is followed sends what it carries. -/
theorem follow_makes (cancel : Option Instant) (n : Nat) :
    ∀ (progress : Answer Failure Progress) (s : Scene σ),
      (∀ p, progress = .ok p → p.Carries P) → s.Sends P (client.follow cancel n progress s).2 := by
  induction n with
  | zero => exact fun _ s _ => .refl s
  | succ n ih =>
    rintro (stop | ⟨c, wake, wait⟩ | response) s hcarries
    · exact .refl s
    · have hc : P c.request := hcarries _ rfl
      simp only [follow]
      generalize wakeUp s.clock.now wake cancel = up
      obtain ⟨hsends, hcarries⟩ := Scene.Sends.perform
        (client.resume_makes hc wait (s.later up.1).clock up.2 (s.later up.1).world)
      exact (Scene.Sends.of_sends_eq rfl).trans (hsends.trans (ih _ _ hcarries))
    · exact .refl s

variable (client)

/-- What a run sends is made from its request, in the world that the run begins in. -/
theorem run_makes (id : Nat) (request : Request) (cancel : Option Instant) (s : Scene σ) :
    s.Sends (client.Makes s.world request) (client.run id request cancel s).2 := by
  obtain ⟨hsends, hcarries⟩ := Scene.Sends.perform
    (client.begin_makes id request s.clock (isPast cancel s.clock.now) s.world)
  rw [run_eq_follow]
  exact hsends.trans (follow_makes cancel maxWaits _ _ hcarries)

end Client

end Courier
