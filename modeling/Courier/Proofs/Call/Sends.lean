import Courier.Proofs.Call.Stages

/-!
# How often a request is sent

All sendings of a call draw on one budget : `maxRetries` of them may follow the first, whether
the limiter asked for one or the status was one to try again. A run sends the same request each
time, stops at the first final reply, and its outcome is the verdict on the last reply alone
(`Client.run_sends`).
-/

namespace Courier

/-- The request that an event sends. -/
def Event.sent? : Event → Option Outgoing
  | .sends request => some request
  | _ => none

/-- The requests sent in a timeline, with their times. -/
def Timeline.sends (log : Timeline) : List (Instant × Outgoing) :=
  log.filterMap fun (t, e) => e.sent?.map (t, ·)

@[simp] theorem Timeline.sends_append (log log' : Timeline) :
    Timeline.sends (log ++ log') = log.sends ++ log'.sends :=
  List.filterMap_append

/-- A piece that sends nothing leaves what is sent as it is. -/
theorem Scene.sends_perform {σ α : Type} {act : Act σ α} {Q : α → Prop}
    (h : act.Yields (·.sent? = none) Q) (s : Scene σ) :
    (s.perform act).2.log.sends = s.log.sends := by
  obtain ⟨added, hlog, hadded⟩ := s.exists_log_perform h
  have hnone : Timeline.sends (added.map (s.clock.now, ·)) = [] := by
    refine List.filterMap_eq_nil_iff.2 fun te hte => ?_
    obtain ⟨e, he, rfl⟩ := List.mem_map.1 hte
    simp [hadded e he]
  rw [hlog, Timeline.sends_append, hnone, List.append_nil]

namespace Client

open Call (Progress)

variable {σ : Type} (client : Client σ) (c : Call)

@[simp] theorem sends_deliver (s : Scene σ) :
    (client.deliver c s).2.log.sends = s.log.sends ++ [(s.clock.now, c.request)] := by
  simp [deliver, Scene.note, Timeline.sends, Event.sent?]

@[simp] theorem sends_hear (c : Call) (response : Response) (s : Scene σ) :
    (client.hear c response s).2.log.sends = s.log.sends := by
  unfold hear
  split
  · rfl
  · split <;> simp [Scene.note, Timeline.sends, Event.sent?]

@[simp] theorem sends_receive (c : Call) (s : Scene σ) (result : Except Bool Response) :
    (client.receive c s result).2.log.sends = s.log.sends := by
  unfold receive
  split
  · rfl
  · next response =>
    have h := client.sends_hear c response s
    split <;> simp_all

@[simp] theorem sends_exchange (s : Scene σ) :
    (client.exchange c s).2.log.sends = s.log.sends ++ [(s.clock.now, c.request)] := by
  simp [exchange]

@[simp] theorem sends_again (attempt : Nat) (reply : Reply) (s : Scene σ) :
    (client.again c attempt reply s).log.sends = s.log.sends :=
  s.sends_perform (putOff_yields c (by simp [Event.sent?]) _ _ _ _)

/-- The sendings before one, in their order. -/
theorem sends_sending (s : Scene σ) (n : Nat) :
    (client.sending c s n).log.sends =
      s.log.sends ++ (List.range n).map fun m => ((client.sending c s m).clock.now, c.request) := by
  induction n with
  | zero => simp [sending]
  | succ n ih => simp [sending, ih, List.range_succ]

/-- Nothing is sent before the first sending. -/
theorem sends_approach (id : Nat) (request : Request) (s : Scene σ) :
    (client.approach id request s).2.log.sends = s.log.sends := by
  have h₁ := s.sends_perform (client.prepare_yields (by simp [Event.sent?]) id request s.clock)
  unfold approach
  rcases hprepare : s.perform (client.prepare id request s.clock) with ⟨_ | c, s₁⟩ <;>
    rw [hprepare] at h₁
  · exact h₁
  have h₂ := s₁.sends_perform (client.askNext_yields c (by simp [Event.sent?]) rfl rfl)
  rcases hask : s₁.perform (client.askNext c) with ⟨_ | next, s₂⟩ <;>
    rw [hask] at h₂ <;> simp only [hask]
  · exact h₂.trans h₁
  have h₃ := s₂.sends_perform (atGate_yields c (by simp [Event.sent?]) s₂.clock next)
  rcases hgate : s₂.perform (atGate c s₂.clock next) with ⟨_ | wake, s₃⟩ <;>
    rw [hgate] at h₃ <;> simp only
  · exact h₃.trans (h₂.trans h₁)
  have h₄ := (s₃.later (wake.getD s₃.clock.now)).sends_perform
    (client.announce_yields c (by simp [Event.sent?]) (by simp [Event.sent?]))
  rcases hannounce : (s₃.later (wake.getD s₃.clock.now)).perform (client.announce c)
    with ⟨_ | _, s₄⟩ <;>
    rw [hannounce] at h₄ <;> exact h₄.trans (h₃.trans (h₂.trans h₁))

theorem sends_finish (s : Scene σ) (now : Instant) (verdict : Answer Failure Response) :
    (s.perform (client.finish c now verdict)).2.log.sends = s.log.sends := by
  match verdict with
  | .ok response =>
    exact s.sends_perform <|
      client.conclude_yields c (by simp [Event.sent?]) (by simp [Event.sent?]) _ _
  | .error (.error f) =>
    exact s.sends_perform <|
      (client.tellFailure_yields c (by simp [Event.sent?]) f).bind fun _ _ =>
        Act.yields_fail (Q := fun _ => True) f
  | .error (.crash crash) => simp [finish]

/-- A call makes its sendings up to the last. -/
theorem sends_complete (s : Scene σ) (last : Nat) :
    (client.complete c s last).2.log.sends = s.log.sends ++
      (List.range (last + 1)).map fun m => ((client.sending c s m).clock.now, c.request) := by
  simp [complete, sends_finish, replied, sends_sending, List.range_succ]

/-- Without observers and with no headers to trace, a verdict is the result. -/
theorem complete_fst (s : Scene σ) (last : Nat) (ho : client.observers = [])
    (hd : c.debug = false) :
    (client.complete c s last).1 = some (verdict c (client.reply c s last)) := by
  unfold complete
  match verdict c (client.reply c s last) with
  | .ok response =>
    obtain ⟨text, elapsed, hconclude⟩ : ∃ text elapsed,
        client.conclude c (client.replied c s last).clock.now response =
          (Act.onlyIf c.verbose (c.say text elapsed) >>= fun _ =>
            pure (.answered response) : Act σ Progress) :=
      ⟨_, _, by simp [conclude, askObservers, ho, hd, Act.onlyIf]; rfl⟩
    cases hv : c.verbose <;> simp only [finish, hconclude, hv] <;> rfl
  | .error (.error f) =>
    simp [finish, tellFailure, ho, result?, Answer.fail]
  | .error (.crash crash) => simp [finish, result?]

variable {client} {c}

/-- The last sending is the first with a final reply, if the budget reaches so far. -/
theorem Last.eq_min {s : Scene σ} {last k : Nat} (h : client.Last c s last)
    (hk : client.Final (client.reply c s k))
    (hbefore : ∀ m < k, ¬client.Final (client.reply c s m)) :
    last = min k maxRetries := by
  have hle := h.le
  have hge : last ≤ k := Nat.le_of_not_lt fun hlt => h.before k hlt hk
  rcases h.at_end with hfinal | hspent
  · have hk : k ≤ last := Nat.le_of_not_lt fun hlt => hbefore last hlt hfinal
    omega
  · omega

variable (client)

/-- There is one budget of sendings for a call. The last sending is the first with a final reply,
or the one at which the budget is spent, and its reply alone decides what the call finishes
with. The same request is sent each time. -/
theorem run_sends (id : Nat) (request : Request) (s : Scene σ) :
    match client.approach id request s with
    | (.error stop, s') =>
      client.run id request none s = (some (.error stop), s') ∧ s'.log.sends = s.log.sends
    | (.ok (c, _), s') =>
      ∃ last,
        (∀ k, client.Final (client.reply c s' k) → (∀ m < k, ¬client.Final (client.reply c s' m)) →
          last = min k maxRetries) ∧
        ((∀ m ≤ maxRetries, ¬client.Final (client.reply c s' m)) → last = maxRetries) ∧
        (client.run id request none s).2.log.sends.map Prod.snd =
          s.log.sends.map Prod.snd ++ List.replicate (last + 1) c.request ∧
        client.run id request none s = client.complete c s' last ∧
        (client.observers = [] → c.debug = false →
          (client.run id request none s).1 = some (verdict c (client.reply c s' last))) := by
  have hrun := client.run_eq id request s
  have hsends := client.sends_approach id request s
  rcases happroach : client.approach id request s with ⟨stop | ⟨c, next⟩, s'⟩ <;>
    rw [happroach] at hrun hsends
  · exact ⟨hrun, hsends⟩
  obtain ⟨last, hlast, hrun⟩ := hrun
  refine ⟨last, fun k hk hbefore => ?_, fun hnone => ?_, ?_, hrun, fun ho hd => ?_⟩
  · exact hlast.eq_min hk hbefore
  · exact hlast.at_end.resolve_left (hnone last hlast.le)
  · rw [hrun, sends_complete, hsends]
    simp [List.eq_replicate_iff]
  · rw [hrun, client.complete_fst c s' last ho hd]

end Client

end Courier
