import Courier.Proofs.Batch.Stop
import Courier.Proofs.Call.Provenance
import Courier.Proofs.Header.Merging

/-!
# Which headers are sent

Headers come to a request in four layers : what the authorizer sets, the headers of a batch's
settings, the request's own, and the client's. What is sent has of each name exactly the values of
the first layer that has the name (`Client.header_precedence`). For a call this is how its request
is made. In a session, each request on its way was made from one that the producer gave, in the
world at an earlier time (`Session.Origin`), and it is configured before.
-/

namespace Courier.Batch.Session

variable {σ : Type} {p : Plan σ} {s s' s₀ : State σ} {e : Deed} {h : List Deed} {j : Job}

/-! ## Where the requests of a session come from -/

/-- A request that the producer gave, with the headers of the settings. -/
def Given (p : Plan σ) (h : List Deed) (request : Request) : Prop :=
  ∃ given ∈ yielded h, request = given.configure p.settings.headers

/-- What the client makes of such a request in the world at some time of a session. -/
def Made (p : Plan σ) (s₀ : State σ) (h : List Deed) (r : Outgoing) : Prop :=
  ∃ given ∈ yielded h, ∃ h₁ s₁, h₁ <+: h ∧ Course p s₀ h₁ s₁ ∧
    p.batch.client.Makes s₁.scene.world (given.configure p.settings.headers) r

theorem Given.snoc {request : Request} (hgiven : Given p h request) (e : Deed) :
    Given p (h ++ [e]) request := by
  obtain ⟨given, hmem, heq⟩ := hgiven
  exact ⟨given, by simp [hmem], heq⟩

theorem Made.snoc {r : Outgoing} (hmade : Made p s₀ h r) (e : Deed) : Made p s₀ (h ++ [e]) r := by
  obtain ⟨given, hmem, h₁, s₁, hprefix, hrest⟩ := hmade
  exact ⟨given, by simp [hmem], h₁, s₁, hprefix.trans (List.prefix_append _ _), hrest⟩

/-- Everything that is on its way in a session, or will be, comes from the producer. -/
structure Origin (p : Plan σ) (s₀ : State σ) (h : List Deed) (s : State σ) : Prop where
  course : Course p s₀ h s
  sent : s₀.scene.Sends (Made p s₀ h) s.scene
  given : ∀ j ∈ s.jobs, Given p h j.request
  carried : ∀ j ∈ s.jobs, ∀ c wake wait, j.work = .calls c wake wait → Made p s₀ h c.request
  inHand : ∀ i request, s.production.inHand = some (i, request) → Given p h request

namespace Origin

theorem start {scene : Scene σ} {canceled : Bool} (hlaunch : p.launch scene canceled = .ok s₀) :
    Origin p s₀ [] s₀ := by
  obtain rfl := eq_start_of_launch hlaunch
  exact ⟨.nil, .refl _, by simp [Plan.start], by simp [Plan.start], nofun⟩

/-- What everybody does who leaves the jobs and the production as they are. -/
theorem idle (ho : Origin p s₀ h s) (hmove : Move p s e s')
    (hsends : s'.scene.log.sends = s.scene.log.sends) (hjobs : s'.jobs = s.jobs)
    (hinHand : ∀ i request, s'.production.inHand = some (i, request) →
      Given p (h ++ [e]) request) : Origin p s₀ (h ++ [e]) s' where
  course := ho.course.snoc hmove
  sent := (ho.sent.mono fun _ hr => hr.snoc e).trans (.of_sends_eq hsends)
  given j hj := (ho.given j (hjobs ▸ hj)).snoc e
  carried j hj c wake wait hwork := (ho.carried j (hjobs ▸ hj) c wake wait hwork).snoc e
  inHand := hinHand

theorem exists_of_mem_setWork {i : Nat} {work : Work} (hj : j ∈ (s.setWork i work).jobs) :
    ∃ k ∈ s.jobs, j.request = k.request ∧ (j.work = k.work ∨ j.work = work) := by
  obtain ⟨k, hk, rfl⟩ := List.mem_map.1 hj
  refine ⟨k, hk, ?_⟩
  split
  · exact ⟨rfl, .inr rfl⟩
  · exact ⟨rfl, .inl rfl⟩

/-- A job is given other work. -/
theorem setWork {i : Nat} {work : Work} (ho : Origin p s₀ h s) (hmove : Move p s e s')
    (hsends : s.scene.Sends (Made p s₀ h) s'.scene) (hjobs : s'.jobs = (s.setWork i work).jobs)
    (hproduction : s'.production = s.production)
    (hwork : ∀ c wake wait, work = .calls c wake wait → Made p s₀ h c.request) :
    Origin p s₀ (h ++ [e]) s' where
  course := ho.course.snoc hmove
  sent := (ho.sent.trans hsends).mono fun _ hr => hr.snoc e
  given j hj := by
    obtain ⟨k, hk, hrequest, -⟩ := exists_of_mem_setWork (hjobs ▸ hj)
    exact hrequest ▸ (ho.given k hk).snoc e
  carried j hj c wake wait hcalls := by
    obtain ⟨k, hk, -, hsame | hother⟩ := exists_of_mem_setWork (hjobs ▸ hj)
    · exact (ho.carried k hk c wake wait (hsame ▸ hcalls)).snoc e
    · exact (hwork c wake wait (hother ▸ hcalls)).snoc e
  inHand i request hi := (ho.inHand i request (hproduction ▸ hi)).snoc e

/-- A job that begins makes what it sends of its request, in the world at this time. -/
theorem begin_yieldsAt (j : Job) : (j.begin p s).YieldsAt s.scene.world
    (Event.Sends (p.batch.client.Makes s.scene.world j.request))
    (Call.Progress.Carries (p.batch.client.Makes s.scene.world j.request)) := by
  have hbegin := p.batch.client.begin_makes (s.calls + 1) j.request s.scene.clock s.canceled
    s.scene.world
  unfold Job.begin Act.onlyIf
  cases p.batch.debug && p.batch.verbose with
  | false => exact hbegin
  | true => exact Act.yieldsAt_record_bind (Event.sends_of_none rfl) hbegin

theorem carries_of_calls {P : Outgoing → Prop} {progress : Answer Failure Call.Progress}
    (hcarries : ∀ a, progress = .ok a → a.Carries P) (c : Call) (wake : Instant)
    (wait : Call.Wait) (hcalls : Work.ofProgress progress = .calls c wake wait) : P c.request := by
  unfold Work.ofProgress at hcalls
  split at hcalls <;> cases hcalls
  exact hcarries _ rfl

/-- What a job does. -/
theorem step (ho : Origin p s₀ h s) (hj : s.job? j.index = some j)
    (hstep : Batch.step p s j = some s') : Origin p s₀ (h ++ [doneByJob s j]) s' := by
  have hmove : Move p s (doneByJob s j) s' := .advances hj hstep
  have hmem := State.mem_of_job? hj
  have hidle (hbegins : j.work ≠ .begins)
      (hcalls : ∀ call wake wait, j.work ≠ .calls call wake wait) :
      s.scene.Sends (Made p s₀ h) s'.scene :=
    .of_sends_eq (sends_step_of_idle hbegins hcalls hstep)
  have hshown := JobStep.of_step hstep
  generalize shownByJob p s j = shown at hshown
  cases hshown with
  | begins hwork =>
    have hmade (r : Outgoing) (hr : p.batch.client.Makes s.scene.world j.request r) :
        Made p s₀ h r := by
      obtain ⟨given, hgiven, heq⟩ := ho.given j hmem
      exact ⟨given, hgiven, h, s, List.prefix_refl h, ho.course, heq ▸ hr⟩
    obtain ⟨hsends, hcarries⟩ := Scene.Sends.perform (begin_yieldsAt (p := p) (s := s) j)
    exact ho.setWork hmove (hsends.mono hmade) rfl rfl fun c wake wait hcalls =>
      hmade _ (carries_of_calls hcarries c wake wait hcalls)
  | resumes hwork =>
    obtain ⟨hsends, hcarries⟩ := Scene.Sends.perform <|
      p.batch.client.resume_makes (ho.carried j hmem _ _ _ hwork) _ s.scene.clock s.canceled
        s.scene.world
    exact ho.setWork hmove hsends rfl rfl (carries_of_calls hcarries)
  | handles _ hwork =>
    refine ho.setWork hmove (hidle (by simp [hwork]) (by simp [hwork])) rfl rfl ?_
    intro c wake wait hcalls
    unfold Work.ofHandled at hcalls
    split at hcalls <;> cases hcalls
  | unhandled hwork | answers _ hwork | refused hwork | delivers hwork | failsFirst hwork
    | failsLater hwork | reports _ hwork | stops hwork =>
    exact ho.setWork hmove (hidle (by simp [hwork]) (by simp [hwork])) rfl rfl (by simp)
  | leaves hwork =>
    have hkept {k : Job} (hk : k ∈ (s.dropJob j.index).jobs) : k ∈ s.jobs :=
      List.mem_of_mem_filter hk
    exact
      { course := ho.course.snoc hmove
        sent := ho.sent.mono fun _ hr => hr.snoc _
        given := fun k hk => (ho.given k (hkept hk)).snoc _
        carried := fun k hk c wake wait hcalls =>
          (ho.carried k (hkept hk) c wake wait hcalls).snoc _
        inHand := fun i request hi => (ho.inHand i request hi).snoc _ }

/-- What production does. -/
theorem produce (ho : Origin p s₀ h s) (hstep : Batch.produce p s = some s') :
    Origin p s₀ (h ++ [doneByProduction p s]) s' := by
  have hmove : Move p s (doneByProduction p s) s' := .produces hstep
  have hsends := sends_produce hstep
  obtain ⟨_, hshown⟩ := exists_productionStep hstep
  cases hshown with
  | @asks i request scene hproduction hanswer =>
    refine ho.idle hmove hsends rfl fun i' request' hi => ?_
    have hdone : doneByProduction p s = .asks i (.ok (some request)) := by
      simp only [doneByProduction, hproduction, hanswer]
    cases hi
    exact ⟨request, by simp [hdone, yielded], rfl⟩
  | @adds i request hproduction =>
    have hadded {k : Job} (hk : k ∈ (s.addJob i request).jobs) :
        k ∈ s.jobs ∨ k.request = request ∧ k.work = .begins := by
      rcases List.mem_append.1 hk with hk | hk
      · exact .inl hk
      · rw [List.mem_singleton.1 hk]
        exact .inr ⟨rfl, rfl⟩
    refine ⟨ho.course.snoc hmove, (ho.sent.mono fun _ hr => hr.snoc _).trans (.of_sends_eq hsends),
      fun k hk => ?_, fun k hk c wake wait hcalls => ?_, fun _ _ hi => by cases hi⟩
    · rcases hadded hk with hk | ⟨hrequest, -⟩
      · exact (ho.given k hk).snoc _
      · exact hrequest ▸ (ho.inHand i request (by rw [hproduction]; rfl)).snoc _
    · rcases hadded hk with hk | ⟨-, hbegins⟩
      · exact (ho.carried k hk c wake wait hcalls).snoc _
      · rw [hbegins] at hcalls
        cases hcalls
  | offers hproduction | claims hproduction | queues hproduction | wakes hproduction =>
    refine ho.idle hmove hsends rfl fun i request hi => ?_
    exact (ho.inHand i request (by rw [hproduction]; exact hi)).snoc _
  | checks | gives | exhausts | fails | crashes | stops | quits | drains | drainsCanceled =>
    exact ho.idle hmove hsends rfl fun _ _ hi => by cases hi

theorem move (ho : Origin p s₀ h s) (hmove : Move p s e s') : Origin p s₀ (h ++ [e]) s' := by
  have hkeep (i : Nat) (request : Request) (hi : s.production.inHand = some (i, request)) :
      Given p (h ++ [e]) request := (ho.inHand i request hi).snoc e
  cases hmove with
  | produces hstep => exact ho.produce hstep
  | advances hj hstep => exact ho.step hj hstep
  | reads hreader hnext => exact ho.idle (.reads hreader hnext) rfl rfl hkeep
  | dismisses hreader => exact ho.idle (.dismisses hreader) rfl rfl hkeep
  | leaves hreader => exact ho.idle (.leaves hreader) rfl rfl hkeep
  | cancels => exact ho.idle .cancels rfl rfl hkeep
  | passes hnow => exact ho.idle (.passes hnow) rfl rfl hkeep

theorem of_course {scene : Scene σ} {canceled : Bool}
    (hlaunch : p.launch scene canceled = .ok s₀) (hcourse : Course p s₀ h s) : Origin p s₀ h s :=
  hcourse.invariant (start hlaunch) fun _ _ _ _ => move

end Origin

end Courier.Batch.Session

namespace Courier

/-! ## The layers of what is sent -/

/-- What is sent has the method and the body of a request, and headers from layers. -/
structure Outgoing.Layered (r : Outgoing) (request : Request) (layers : List Headers) : Prop where
  method : r.method = request.method
  body : r.body = request.body
  headers : r.headers.Layers layers

/-- The headers that the authorizer of a client sets in a world, if it has one. -/
def Credentials.layer? {σ : Type} (credentials : Option (Credentials σ)) (w : σ) : Headers :=
  match credentials with
  | some c => c.layer w
  | none => .empty

namespace Client

open Batch.Session (Course yielded)

variable {σ : Type} {client : Client σ} {credentials : Option (Credentials σ)}

/-- What a client makes of a request that was configured has four layers of headers. -/
theorem Makes.layered {w : σ} {request : Request} {settings : Headers} {r : Outgoing}
    (h : client.Makes w (request.configure settings) r)
    (hauthorizer : client.authorizer = credentials.map Credentials.authorize)
    (hsingle : ∀ c, credentials = some c → c.Single) (hdefaults : client.headers.Proper)
    (hsettings : settings.Proper) (hrequest : request.headers.Proper) :
    r.Layered request
      [Credentials.layer? credentials w, settings, request.headers, client.headers] := by
  obtain ⟨resolved, authorized, hresolve, hauthorized, rfl⟩ := h
  obtain ⟨url, rfl⟩ : ∃ url, resolved =
      ⟨request.method, url, request.headers.replaceWith settings, request.body⟩ := by
    unfold Request.resolve at hresolve
    cases hurl : Request.resolveUrl client.base (request.configure settings).target with
    | error f => simp [hurl, Except.map] at hresolve
    | ok url =>
      rw [hurl] at hresolve
      exact ⟨url, (Except.ok.inj hresolve).symm⟩
  have hconfigured : (request.headers.replaceWith settings).Layers [settings, request.headers] :=
    hrequest.layers.replaceWith hsettings
  rw [hauthorizer] at hauthorized
  cases credentials with
  | none =>
    obtain rfl : authorized = _ := hauthorized
    exact ⟨rfl, rfl, hconfigured.over_empty.withDefaults hdefaults⟩
  | some c =>
    obtain ⟨hlayers, hmethod, hbody⟩ :=
      Credentials.layers_authorize (hsingle c rfl) hconfigured hauthorized
    exact ⟨hmethod, hbody, hlayers.withDefaults hdefaults⟩

/-- What is sent has of each name the values that the authorizer sets, or else those of the
settings, or else those of its request, or else those of the client, all of them in their order,
and no other names. This holds of calls, which have no settings, and of all sessions. -/
theorem header_precedence
    (hauthorizer : client.authorizer = credentials.map Credentials.authorize)
    (hsingle : ∀ c, credentials = some c → c.Single) (hdefaults : client.headers.Proper) :
    (∀ (id : Nat) (request : Request) (cancel : Option Instant) (s : Scene σ),
      request.headers.Proper →
        s.Sends (fun r => r.Layered request
          [Credentials.layer? credentials s.world, .empty, request.headers, client.headers])
          (client.run id request cancel s).2) ∧
    ∀ (p : Batch.Plan σ) (scene : Scene σ) (canceled : Bool) (s₀ s : Batch.State σ)
      (h : List Batch.Session.Deed), p.batch.client = client → p.settings.headers.Proper →
        p.launch scene canceled = .ok s₀ → Course p s₀ h s →
          (∀ given ∈ yielded h, given.headers.Proper) →
            scene.Sends (fun r => ∃ given ∈ yielded h, ∃ h₁ s₁, h₁ <+: h ∧ Course p s₀ h₁ s₁ ∧
              r.Layered given [Credentials.layer? credentials s₁.scene.world, p.settings.headers,
                given.headers, client.headers]) s.scene := by
  constructor
  · intro id request cancel s hrequest
    exact (client.run_makes id (request.configure .empty) cancel s).mono fun r hr =>
      hr.layered hauthorizer hsingle hdefaults .empty hrequest
  · rintro p scene canceled s₀ s h rfl hsettings hlaunch hcourse hgiven
    have horigin := Batch.Session.Origin.of_course hlaunch hcourse
    obtain rfl := Batch.Session.eq_start_of_launch hlaunch
    refine horigin.sent.mono fun r => ?_
    rintro ⟨given, hmem, h₁, s₁, hprefix, hcourse₁, hmakes⟩
    exact ⟨given, hmem, h₁, s₁, hprefix, hcourse₁,
      hmakes.layered hauthorizer hsingle hdefaults hsettings (hgiven given hmem)⟩

/-- The headers of the requests of `signing`. -/
def signed : Headers :=
  .ofFields [(Header.accept, ⟨[5], false⟩), (Header.authorization, ⟨[6], false⟩),
    (Header.accept, ⟨[7], false⟩)]

/-- A batch of a client with a token and with headers of its own. Its settings have two cookies,
and its requests have credentials of their own, in place of which the token is put. -/
def signing : Batch.Plan Unit where
  batch := {
    client := {
      base := none
      authorizer := some (Credentials.bearer "token").authorize
      transport := fun _ _ w => (⟨0, .ok ⟨200, none, {}, none, none⟩⟩, w)
      retryStatuses := []
      backoff := 0
      headers := .ofFields [(Header.accept, ⟨[1], false⟩), (Header.contentType, ⟨[2], false⟩)]
      contentType := ""
      tracing := {} }
    workers := 1 }
  settings := {
    headers := .ofFields [(Header.cookie, ⟨[3], false⟩), (Header.cookie, ⟨[4], false⟩)] }
  producer := fun _ w => (.ok (some { target := "mem:a", headers := signed }), w)

theorem header_precedence_signing :
    let scene : Scene Unit := { clock := ⟨0, 0⟩, world := () }
    let ran := signing.batch.client.run 0 { target := "mem:a", headers := signed } none scene
    (ran.2.log.sends.length = 1 ∧ scene.Sends (fun r => r.headers.Layers
      [(Credentials.bearer "token").layer (), .empty, signed, signing.batch.client.headers])
        ran.2) ∧
    ∃ h s, Course signing (signing.start scene false) h s ∧
      s.scene.log.sends.map (·.2.headers.entries.map fun e => (e.name, e.values.length)) =
        [[(Header.accept, 2), (Header.authorization, 1), (Header.cookie, 2),
          (Header.contentType, 1)]] ∧
      scene.Sends (fun r => ∃ given ∈ yielded h, r.headers.Layers
        [(Credentials.bearer "token").layer (), signing.settings.headers, given.headers,
          signing.batch.client.headers]) s.scene := by
  intro scene ran
  have hplay : ((Batch.Session.play signing (List.replicate 5 .produces ++ [.advances 0])
      (signing.start scene false)).map fun (h, s) => ((yielded h).map (·.headers),
        s.scene.log.sends.map (·.2.headers.entries.map fun e => (e.name, e.values.length)))) =
          some ([signed], [[(Header.accept, 2), (Header.authorization, 1), (Header.cookie, 2),
            (Header.contentType, 1)]]) := by
    decide +kernel
  obtain ⟨⟨h, s⟩, hplay, hshown⟩ := Option.map_eq_some_iff.1 hplay
  obtain ⟨hyielded, hentries⟩ := Prod.mk.inj hshown
  have hcourse := Course.of_play _ hplay
  have hsigned : signed.Proper := Headers.proper_ofFields _
  have hgiven (given : Request) (hmem : given ∈ yielded h) : given.headers.Proper := by
    have hheaders : given.headers ∈ (yielded h).map (·.headers) := List.mem_map_of_mem hmem
    rw [hyielded, List.mem_singleton] at hheaders
    exact hheaders ▸ hsigned
  have hsingle (c : Credentials Unit) (hc : some (.bearer "token") = some c) : c.Single := by
    obtain rfl := Option.some.inj hc
    trivial
  obtain ⟨hrun, hsession⟩ := @header_precedence Unit signing.batch.client _ rfl hsingle
    (Headers.proper_ofFields _)
  refine ⟨⟨by decide +kernel, ?_⟩, h, s, hcourse, hentries, ?_⟩
  · exact (hrun 0 _ none scene hsigned).mono fun _ hr => hr.headers
  · refine (hsession signing scene false _ s h rfl (Headers.proper_ofFields _)
      (if_pos (by decide)) hcourse hgiven).mono fun r => ?_
    rintro ⟨given, hmem, _, _, -, -, hlayered⟩
    exact ⟨given, hmem, hlayered.headers⟩

end Client

end Courier
