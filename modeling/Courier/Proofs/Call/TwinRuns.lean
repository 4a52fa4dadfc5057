import Courier.Proofs.Call.Twins

/-!
# Twins of calls stay twins

If the collaborators of a client answer twins alike, each piece of a call corresponds to the same
piece of its twin, from the first (`Client.Blind.begin`) to the last. So two runs that begin as
twins give twins of responses, fail with twins of failures, or crash alike
(`Client.Blind.run`). What they have traced is the same exactly if their parameters are the same or
nothing was traced (`Scene.Twins.traces_eq_iff`).
-/

namespace Courier

variable {σ α α' : Type} {q : Form.Twins} {Voiced : StatusFailure → Prop}

/-! ## Pieces of calls -/

/-- Pieces of calls of a client that tell twins of events, and fail with twins of failures. -/
abbrev Act.Twins (client : Client σ) (q : Form.Twins) (W : σ → σ → Prop) (act : Act σ α)
    (act' : Act σ α') (Q : α → α' → Prop) : Prop :=
  act.Pairs W (Told q client.Voices) (Failure.Twins q client.Voices) act' Q

theorem Failure.Twins.plain {f : Failure} (h : ∀ e, f ≠ .status e) : f.Twins q Voiced f :=
  .same f fun e he => absurd he (h e)

namespace Client.Blind

open Call (Progress Wait)

variable {U : Option Url → Option Url → Prop} {W : σ → σ → Prop} {client : Client σ} {c c' : Call}

theorem askObservers {event event' : Nat → Event}
    {ask ask' : Observer σ → σ → Answer Failure Unit × σ}
    (hevent : ∀ i, (event i).Twins q client.Voices (event' i))
    (hsilent : ∀ i, (event i).trace? = none)
    (hask : ∀ o ∈ client.observers, AnswerAlike W Eq (ask o) (ask' o))
    (hvoices : ∀ o ∈ client.observers, ∀ e w,
      (ask o w).1 = .error (.error (.status e)) → client.Voices e) :
    (client.askObservers event ask).Twins client q W (client.askObservers event' ask')
      fun _ _ => True := by
  refine Act.pairs_forM Told.chain ?_
  rintro ⟨o, i⟩ ho
  have ho : o ∈ client.observers := List.fst_mem_of_mem_zipIdx ho
  refine (Act.pairs_record (told_silent (hevent i) (hsilent i))).bind Told.chain fun _ _ _ => ?_
  refine (Act.pairs_ask Told.chain (hask o ho) fun f w hf => .same f ?_).weaken
  rintro e rfl
  exact hvoices o ho e w hf

theorem tellFailure (h : client.Blind q U W) (hcalls : c.Twins q c') {f f' : Failure}
    (hf : f.Twins q client.Voices f') :
    (client.tellFailure c f).Twins client q W (client.tellFailure c' f') fun _ _ => True := by
  refine Act.pairs_forM Told.chain ?_
  rintro ⟨o, i⟩ ho
  have ho : o ∈ client.observers := List.fst_mem_of_mem_zipIdx ho
  refine (Act.pairs_record (told_silent (.failed i hcalls.request hf) rfl)).bind Told.chain
    fun _ _ _ => ?_
  have hfailed := (h.observers o ho).failed _ _ _ _ hcalls.request hf
  exact (Act.pairs_ask Told.chain hfailed nofun).weaken

theorem send (h : client.Blind q U W) (hcalls : c.Twins q c') (clock : Clock) (canceled : Bool)
    (attempt : Nat) :
    (client.send c clock canceled attempt).Twins client q W (client.send c' clock canceled attempt)
      (Progress.Twins q U) := by
  refine Act.pairs_ite (fun _ => Act.pairs_fail Told.chain (.plain nofun)) fun _ => ?_
  refine (Act.pairs_record (told_silent (.sends hcalls.request) rfl)).bind Told.chain
    fun _ _ _ => ?_
  have hdelivered : AnswerAlike W
      (fun d d' => d.after = d'.after ∧ Delivery.ResultTwins U d.result d'.result)
      (fun w => ((.ok (client.transport clock.now c.request w).1 : Answer Empty Delivery),
        (client.transport clock.now c.request w).2))
      (fun w => ((.ok (client.transport clock.now c'.request w).1 : Answer Empty Delivery),
        (client.transport clock.now c'.request w).2)) := by
    intro w w' hw
    obtain ⟨hafter, hresult, hworld⟩ := h.transport clock.now _ _ w w' hcalls.request hw
    exact ⟨.ok ⟨hafter, hresult⟩, hworld⟩
  refine (Act.pairs_ask Told.chain hdelivered nofun).bind Told.chain fun delivery delivery' hd => ?_
  obtain ⟨hafter, hresult⟩ := hd
  rw [hafter]
  exact Act.pairs_pure Told.chain (.waits hcalls _ (.flight attempt hresult))

theorem learn (h : client.Blind q U W) (hcalls : c.Twins q c') (clock : Clock)
    {response response' : Response} (hresponse : response.Twins U response') :
    (client.learn c clock response).Twins client q W (client.learn c' clock response') Eq := by
  unfold Client.learn
  cases hlimiter : client.limiter with
  | none => exact Act.pairs_pure Told.chain rfl
  | some limiter =>
    rw [hresponse.status, ← hcalls.start]
    refine (Act.pairs_record (told_silent (.same _) rfl)).bind Told.chain fun _ _ _ => ?_
    refine Act.pairs_ask Told.chain (fun w w' hw => ?_) nofun
    obtain ⟨hanswer, hworld⟩ := (h.limiter _ hlimiter).update c.start clock _ _ hresponse w w' hw
    revert hanswer hworld
    generalize limiter.update c.start clock response w = said,
      limiter.update c.start clock response' w' = said'
    obtain ⟨answer, v⟩ := said
    obtain ⟨answer', v'⟩ := said'
    rintro (⟨⟨⟩⟩ | (refusal | crash)) hworld
    · exact ⟨.ok rfl, hworld⟩
    · exact ⟨.ok rfl, hworld⟩
    · exact ⟨.error _, hworld⟩

theorem putOff (hcalls : c.Twins q c') (clock : Clock) (attempt : Nat) (delay : Duration)
    (why : String) :
    (putOff c clock attempt delay why : Act σ Progress).Twins client q W
      (Client.putOff c' clock attempt delay why) (Progress.Twins q U) :=
  (hcalls.sayStep _).bind Told.chain fun _ _ _ =>
    Act.pairs_pure Told.chain (.waits hcalls _ (.pause attempt))

/-- A refusal of a call shows its URL. -/
theorem refused (hcalls : c.Twins q c') (r : Limiter.Refusal) :
    (c.refused r).Twins q Voiced (c'.refused r) := by
  unfold Call.refused
  rw [hcalls.id, hcalls.request.method]
  exact .rateLimit _ _ r hcalls.request

theorem settle (hcalls : c.Twins q c') (clock : Clock) (attempt : Nat)
    {response response' : Response} (hresponse : response.Twins U response')
    (refusal : Option Limiter.Refusal) :
    (client.settle c clock attempt response refusal).Twins client q W
      (client.settle c' clock attempt response' refusal) (Progress.Twins q U) := by
  have hentity : response.entity? = response'.entity? := by
    simp only [Response.entity?, Response.contentType, hresponse.headers, hresponse.body]
  have hunexpected : Failure.Twins q client.Voices
      (.status (.unexpected c'.id c'.request.method c.request.url.print response'.status
        response'.entity?))
      (.status (.unexpected c'.id c'.request.method c'.request.url.print response'.status
        response'.entity?)) :=
    .status (.unexpected c'.id c'.request.method "" response'.status response'.entity?)
      hcalls.request
  unfold Client.settle
  rw [hresponse.status, hentity, hcalls.id, hcalls.request.method]
  split
  · exact Act.pairs_ite (fun _ => Act.pairs_fail Told.chain (refused hcalls _)) fun _ =>
      putOff hcalls _ _ _ _
  · refine Act.pairs_ite (fun _ => putOff hcalls _ _ _ _) fun _ => ?_
    refine Act.pairs_ite (fun _ => Act.pairs_fail Told.chain hunexpected) fun _ => ?_
    split
    · exact Act.pairs_fail Told.chain (refused hcalls _)
    · exact Act.pairs_pure Told.chain (.answered hresponse)

theorem land (h : client.Blind q U W) (hcalls : c.Twins q c') (clock : Clock) (attempt : Nat)
    {result result' : Except Bool Response} (hresult : Delivery.ResultTwins U result result') :
    (client.land c clock attempt result).Twins client q W (client.land c' clock attempt result')
      (Progress.Twins q U) := by
  cases hresult with
  | error timeout => exact Act.pairs_fail Told.chain (.plain nofun)
  | ok hresponse =>
    refine (h.learn hcalls clock hresponse).bind Told.chain fun refusal refusal' hrefusals => ?_
    obtain rfl := hrefusals
    exact settle hcalls clock attempt hresponse refusal

/-! ## Stages of calls -/

theorem askNext (h : client.Blind q U W) (hcalls : c.Twins q c') :
    (client.askNext c).Twins client q W (client.askNext c') Eq := by
  unfold Client.askNext
  rw [hcalls.verbose, hcalls.start]
  cases hlimiter : client.limiter with
  | none => exact Act.pairs_pure Told.chain rfl
  | some limiter =>
    have hblind := h.limiter _ hlimiter
    have hreport : (c.sayReport limiter).Twins client q W (c'.sayReport limiter)
        fun _ _ => True := by
      unfold Call.sayReport
      rw [hcalls.start]
      refine (Act.pairs_record (told_silent (.same _) rfl)).bind Told.chain fun _ _ _ => ?_
      refine (Act.pairs_ask Told.chain (hblind.report _) nofun).bind Told.chain
        fun report report' hreports => ?_
      obtain rfl := hreports
      exact hcalls.sayStep _
    refine (Act.pairs_onlyIf Told.chain hreport).bind Told.chain fun _ _ _ => ?_
    refine (Act.pairs_record (told_silent (.same _) rfl)).bind Told.chain fun _ _ _ => ?_
    refine (Act.pairs_ask Told.chain (hblind.next _ _ _ hcalls.request)
      fun r _ _ => refused hcalls r).bind Told.chain fun _ _ hnext => ?_
    exact Act.pairs_pure Told.chain (congrArg some hnext)

theorem atGate (hcalls : c.Twins q c') (clock : Clock) (next : Option Instant) :
    (Client.atGate c clock next : Act σ (Option Instant)).Twins client q W
      (Client.atGate c' clock next) Eq :=
  Act.pairs_ite (fun _ => Act.pairs_pure Told.chain rfl) fun _ =>
    (hcalls.sayStep _).bind Told.chain fun _ _ _ => Act.pairs_pure Told.chain rfl

/-- A line with the URL comes first, if there are any. -/
theorem sayFirst {α α' : Type} {Q : α → α' → Prop} (hcalls : c.Twins q c') (tail : String)
    (elapsed : Option Duration) {act : Act σ α} {act' : Act σ α'}
    (hact : (c'.verbose || c'.debug) = true → act.Pairs W
      (List.Forall₂ (Event.Twins q client.Voices)) (Failure.Twins q client.Voices) act' Q)
    (hquiet : (c'.verbose || c'.debug) = false → act.Twins client q W act' Q) :
    (Act.onlyIf (c.verbose || c.debug) (c.say (c.line ++ tail) elapsed) >>= fun _ =>
        act).Twins client q W
      (Act.onlyIf (c'.verbose || c'.debug) (c'.say (c'.line ++ tail) elapsed) >>= fun _ => act')
      Q := by
  rw [hcalls.verbose, hcalls.debug]
  cases htraced : c'.verbose || c'.debug with
  | true =>
    exact (hcalls.say tail elapsed).andThen (fun _ _ _ => hact htraced) (fun _ _ => Shown.told)
      fun _ _ _ _ => Shown.append
  | false =>
    exact (Act.pairs_pure (Q := fun _ _ => True) Told.chain trivial).bind Told.chain
      fun _ _ _ => hquiet htraced

theorem announce (h : client.Blind q U W) (hcalls : c.Twins q c') :
    (client.announce c).Twins client q W (client.announce c') fun _ _ => True := by
  unfold Client.announce
  refine (askObservers (fun i => .willSend i hcalls.request) (fun _ => rfl)
    (fun o ho => (h.observers o ho).willSend _ _ hcalls.request)
    fun o ho e w he => ⟨o, ho, .inl ⟨_, w, he⟩⟩).bind Told.chain fun _ _ _ => ?_
  rw [← String.append_empty (s := c.line), ← String.append_empty (s := c'.line)]
  refine sayFirst hcalls "" none (fun _ => ?_) fun hquiet => ?_
  · rw [hcalls.debug]
    exact Act.pairs_onlyIf (.forall₂ _) (hcalls.sayRequest client.digest)
  · rw [hcalls.debug, (Bool.or_eq_false_iff.1 hquiet).2]
    exact Act.pairs_pure Told.chain trivial

theorem launch (h : client.Blind q U W) (hcalls : c.Twins q c') (clock : Clock)
    (canceled : Bool) :
    (client.launch c clock canceled).Twins client q W (client.launch c' clock canceled)
      (Progress.Twins q U) :=
  (h.announce hcalls).bind Told.chain fun _ _ _ =>
    (h.send hcalls clock canceled 0).beforeFailing Told.chain fun _ _ => h.tellFailure hcalls

theorem conclude (h : client.Blind q U W) (hcalls : c.Twins q c') (now : Instant)
    {response response' : Response} (hresponse : response.Twins U response') :
    (client.conclude c now response).Twins client q W (client.conclude c' now response')
      (Progress.Twins q U) := by
  have htell {shown shown' : Response} (hshown : shown.Twins U shown') :
      (client.askObservers (.didReceive · c.request shown.status)
          (·.didReceive c.request shown) >>= fun _ => pure (.answered shown)).Twins client q W
        (client.askObservers (.didReceive · c'.request shown'.status)
          (·.didReceive c'.request shown') >>= fun _ => pure (.answered shown'))
        (Progress.Twins q U) := by
    rw [hshown.status]
    exact (askObservers (fun i => .didReceive i hcalls.request _) (fun _ => rfl)
      (fun o ho => (h.observers o ho).didReceive _ _ _ _ hcalls.request hshown)
      fun o ho e w he => ⟨o, ho, .inr ⟨_, _, w, he⟩⟩).bind Told.chain fun _ _ _ =>
        Act.pairs_pure Told.chain (.answered hshown)
  have hsize : response.sizeText = response'.sizeText := by
    simp only [Response.sizeText, hresponse.size]
  unfold Client.conclude
  rw [hresponse.status, hsize, hcalls.start]
  simp only [String.append_assoc]
  refine sayFirst hcalls _ _ (fun _ => ?_) fun hquiet => ?_
  · rw [hcalls.debug]
    refine Act.Pairs.bind (.forall₂ _) (Act.pairs_ite (fun _ => hcalls.sayResponse client.digest
      hresponse (.plain fun _ hstatus => by cases hstatus)) fun _ =>
        Act.pairs_pure (.forall₂ _) hresponse) ?_
    exact fun _ _ hshown => (htell hshown).mono fun _ _ htold => htold.events
  · rw [hcalls.debug, (Bool.or_eq_false_iff.1 hquiet).2]
    exact (Act.pairs_pure Told.chain hresponse).bind Told.chain fun _ _ hshown => htell hshown

theorem enter (h : client.Blind q U W) (hcalls : c.Twins q c') (clock : Clock)
    (canceled : Bool) (wake : Option Instant) :
    (client.enter c clock canceled wake).Twins client q W (client.enter c' clock canceled wake)
      (Progress.Twins q U) := by
  cases wake with
  | none => exact h.launch hcalls clock canceled
  | some wake =>
    exact Act.pairs_ite (fun _ => Act.pairs_fail Told.chain (.plain nofun)) fun _ =>
      Act.pairs_pure Told.chain (.waits hcalls wake .gate)

theorem resume (h : client.Blind q U W) (hcalls : c.Twins q c') {wait wait' : Wait}
    (hwait : wait.Twins U wait') (clock : Clock) (canceled : Bool) :
    (client.resume c wait clock canceled).Twins client q W (client.resume c' wait' clock canceled)
      (Progress.Twins q U) := by
  cases hwait with
  | gate =>
    exact Act.pairs_ite (fun _ => Act.pairs_fail Told.chain (.plain nofun)) fun _ =>
      h.launch hcalls clock canceled
  | pause attempt =>
    exact (h.send hcalls clock canceled (attempt + 1)).beforeFailing Told.chain fun _ _ =>
      h.tellFailure hcalls
  | @flight attempt result result' hresult =>
    have hlanded : (if canceled then Act.fail .canceled
        else client.land c clock attempt result : Act σ Progress).Twins client q W
          (if canceled then Act.fail .canceled else client.land c' clock attempt result')
          (Progress.Twins q U) :=
      Act.pairs_ite (fun _ => Act.pairs_fail Told.chain (.plain nofun)) fun _ =>
        h.land hcalls clock attempt hresult
    refine (hlanded.beforeFailing Told.chain fun _ _ => h.tellFailure hcalls).bind Told.chain
      fun _ _ hprogress => ?_
    cases hprogress with
    | waits hcalls wake hwait => exact Act.pairs_pure Told.chain (.waits hcalls wake hwait)
    | answered hresponse => exact h.conclude hcalls clock.now hresponse

/-! ## Runs -/

/-- What is wrong with a target is no status. -/
theorem ne_status_of_resolveUrl {base : Option Url} {target : String} {f : Failure}
    (h : Request.resolveUrl base target = .error f) (e : StatusFailure) : f ≠ .status e := by
  unfold Request.resolveUrl at h
  split at h
  · cases h
  · split at h
    · cases h
      nofun
    · next base =>
      cases hjoin : Url.join base target <;> rw [hjoin] at h <;> cases h
      nofun
  · cases h
    nofun

theorem prepare (client : Client σ) (id : Nat) (request : Request) (clock : Clock) :
    ((client.asking q.left).prepare id request clock).Twins client q W
      ((client.asking q.right).prepare id request clock) (Call.Twins q) := by
  have hresolved : (Act.ofExcept (request.resolve client.base) : Act σ Outgoing).Twins client q W
      (Act.ofExcept (request.resolve client.base)) Eq := by
    unfold Request.resolve
    cases hresolve : Request.resolveUrl client.base request.target with
    | error f => exact Act.pairs_fail Told.chain (.plain (ne_status_of_resolveUrl hresolve))
    | ok url => exact Act.pairs_pure Told.chain rfl
  refine hresolved.bind Told.chain fun resolved _ heq => ?_
  obtain rfl := heq
  have hauthorized : AnswerAlike W (Outgoing.Twins q)
      (Credentials.authorize (.query q.left) resolved)
      (Credentials.authorize (.query q.right) resolved) :=
    fun w w' hw => ⟨.ok ⟨rfl, ⟨resolved.url, rfl, rfl⟩, rfl, rfl⟩, hw⟩
  refine (Act.pairs_record (told_silent (.same _) rfl)).bind Told.chain fun _ _ _ => ?_
  refine (Act.pairs_ask Told.chain hauthorized nofun).bind Told.chain fun r r' hr => ?_
  have hheaders :
      r.headers.withDefaults client.headers = r'.headers.withDefaults client.headers := by
    rw [hr.headers]
  exact Act.pairs_pure Told.chain ⟨rfl, rfl, ⟨hr.method, hr.url, hheaders, hr.body⟩, rfl, rfl⟩

theorem begin (h : client.Blind q U W) (id : Nat) (request : Request) (clock : Clock)
    (canceled : Bool) :
    ((client.asking q.left).begin id request clock canceled).Twins client q W
      ((client.asking q.right).begin id request clock canceled) (Progress.Twins q U) := by
  refine (prepare client id request clock).bind Told.chain fun c c' hcalls => ?_
  refine (h.askNext hcalls).bind Told.chain fun next _ hnext => ?_
  obtain rfl := hnext
  refine (atGate hcalls clock next).bind Told.chain fun wake _ hwake => ?_
  obtain rfl := hwake
  exact h.enter hcalls clock canceled wake

end Client.Blind

/-! ## Scenes -/

/-- After two runs that began with one log, the scenes are at the same time, their worlds are
related, and their logs have twins of events. If any line was added, the lines are the same only if
the parameters are. -/
structure Scene.Twins (q : Form.Twins) (Voiced : StatusFailure → Prop) (W : σ → σ → Prop)
    (begun : Timeline) (s s' : Scene σ) : Prop where
  mirrors : s.Mirrors W (Event.Twins q Voiced) s'
  grown : begun.traces <+: s'.log.traces
  shows : s.log.traces = begun.traces ∨ (s.log.traces = s'.log.traces → q.left = q.right)

theorem Timeline.traces_append (log log' : Timeline) :
    traces (log ++ log') = traces log ++ traces log' :=
  List.filterMap_append

/-- Lines that are traced at one time. -/
theorem Timeline.traces_map (t : Instant) (es : List Event) :
    Timeline.traces (es.map (t, ·)) = (linesOf es).map (t, ·) := by
  simp only [Timeline.traces, linesOf, List.filterMap_map, List.map_filterMap, Function.comp_def]

namespace Scene.Twins

variable {W : σ → σ → Prop} {begun : Timeline} {s s' : Scene σ}

/-- Twins of lines are traced at the same times. -/
theorem forall₂_traces_of_mirrors (h : s.Mirrors W (Event.Twins q Voiced) s') :
    List.Forall₂ (fun l l' => l.1 = l'.1 ∧ l.2.Twins q l'.2) s.log.traces s'.log.traces := by
  refine List.rel_filterMap ?_ h.log
  rintro ⟨t, e⟩ ⟨_, e'⟩ ⟨rfl, he⟩
  have htrace := he.trace?
  dsimp only
  revert htrace
  generalize e.trace? = l, e'.trace? = l'
  rintro (@⟨l, l', hl⟩ | -)
  · exact .some ⟨rfl, hl⟩
  · exact .none

theorem forall₂_traces (h : Scene.Twins q Voiced W begun s s') :
    List.Forall₂ (fun l l' => l.1 = l'.1 ∧ l.2.Twins q l'.2) s.log.traces s'.log.traces :=
  forall₂_traces_of_mirrors h.mirrors

/-- The lines are the same exactly if the parameters are, or none was added. -/
theorem traces_eq_iff (h : Scene.Twins q Voiced W begun s s') :
    s.log.traces = s'.log.traces ↔ q.left = q.right ∨ s.log.traces = begun.traces := by
  have htraces := h.forall₂_traces
  refine ⟨fun heq => h.shows.elim .inr fun hshows => .inl (hshows heq), ?_⟩
  rintro (heq | hquiet)
  · refine List.forall₂_eq_eq_eq ▸ htraces.imp ?_
    rintro ⟨t, l⟩ ⟨t', l'⟩ ⟨ht, hl⟩
    exact Prod.ext ht (hl.eq heq)
  · rw [hquiet]
    exact h.grown.eq_of_length (by rw [← hquiet, htraces.length_eq])

theorem start (hworld : W s.world s'.world) (hclock : s.clock = s'.clock)
    (hlog : s.log = s'.log) : Scene.Twins q Voiced W s.log s s' where
  mirrors := ⟨hclock, hworld, hlog ▸ List.forall₂_same.2 fun _ _ => ⟨rfl, .same _⟩⟩
  grown := hlog ▸ List.prefix_rfl
  shows := .inl rfl

theorem later (h : Scene.Twins q Voiced W begun s s') (t : Instant) :
    Scene.Twins q Voiced W begun (s.later t) (s'.later t) :=
  ⟨h.mirrors.later t, h.grown, h.shows⟩

theorem perform {α α' : Type} {F : Failure → Failure → Prop} {Q : α → α' → Prop}
    {act : Act σ α} {act' : Act σ α'} (h : Scene.Twins q Voiced W begun s s')
    (hact : act.Pairs W (Told q Voiced) F act' Q) :
    (s.perform act).1.Pairs F Q (s'.perform act').1 ∧
      Scene.Twins q Voiced W begun (s.perform act).2 (s'.perform act').2 := by
  obtain ⟨answer, answer', v, v', added, added', hrun, hrun', hv, hadded, hanswer⟩ :=
    hact _ _ h.mirrors.world
  rw [Scene.perform_of_run hrun, Scene.perform_of_run hrun']
  refine ⟨hanswer, ⟨h.mirrors.clock, hv, List.rel_append h.mirrors.log ?_⟩, ?_, ?_⟩
  · rw [List.forall₂_map_left_iff, List.forall₂_map_right_iff, h.mirrors.clock]
    exact hadded.events.imp fun _ _ he => ⟨rfl, he⟩
  · rw [Timeline.traces_append]
    exact h.grown.trans (List.prefix_append _ _)
  · have hlength := (forall₂_traces_of_mirrors h.mirrors).length_eq
    simp only [Timeline.traces_append, Timeline.traces_map]
    rcases hadded.shows with hquiet | hshows
    · -- Nothing was added to either log.
      have hquiet' : linesOf added' = [] := by
        have := (forall₂_linesOf hadded.events).length_eq
        rw [hquiet] at this
        exact List.length_eq_zero_iff.1 this.symm
      simpa [hquiet, hquiet'] using h.shows
    · refine .inr fun htraces => hshows ?_
      have hlines := (List.append_inj htraces hlength).2
      rw [h.mirrors.clock] at hlines
      exact List.map_injective_iff.2 (fun _ _ heq => (Prod.mk.inj heq).2) hlines

end Scene.Twins

namespace Client.Blind

open Call (Progress)

variable {U : Option Url → Option Url → Prop} {W : σ → σ → Prop} {client : Client σ}
  {begun : Timeline}

/-- Twins of calls that are followed side by side stay twins. -/
theorem follow (h : client.Blind q U W) (cancel : Option Instant) (n : Nat) :
    ∀ (progress progress' : Answer Failure Progress) (s s' : Scene σ),
      progress.Pairs (Failure.Twins q client.Voices) (Progress.Twins q U) progress' →
      Scene.Twins q client.Voices W begun s s' →
        ((client.asking q.left).follow cancel n progress s).1.Pairs
            (Failure.Twins q client.Voices) (Progress.Twins q U)
            ((client.asking q.right).follow cancel n progress' s').1 ∧
          Scene.Twins q client.Voices W begun
            ((client.asking q.left).follow cancel n progress s).2
            ((client.asking q.right).follow cancel n progress' s').2 := by
  induction n with
  | zero => exact fun progress progress' s s' hprogress hscenes => ⟨hprogress, hscenes⟩
  | succ n ih =>
    intro progress progress' s s' hprogress hscenes
    cases hprogress with
    | fail hf => exact ⟨.fail hf, hscenes⟩
    | crash crash => exact ⟨.crash crash, hscenes⟩
    | ok hprogress =>
      cases hprogress with
      | answered hresponse => exact ⟨.ok (.answered hresponse), hscenes⟩
      | @waits c c' wait wait' hcalls wake hwait =>
        simp only [Client.follow, ← hscenes.mirrors.clock]
        generalize wakeUp s.clock.now wake cancel = up
        have hlater := hscenes.later up.1
        have hclock : (s.later up.1).clock = (s'.later up.1).clock := hlater.mirrors.clock
        obtain ⟨hprogress, hscenes⟩ := hlater.perform <|
          h.resume hcalls hwait (s.later up.1).clock up.2
        rw [← hclock]
        exact ih _ _ _ _ hprogress hscenes

/-- Twins of runs give twins of responses, fail with twins of failures, or crash alike. -/
theorem run (h : client.Blind q U W) (id : Nat) (request : Request) (cancel : Option Instant)
    {s s' : Scene σ} (hscenes : Scene.Twins q client.Voices W begun s s') :
    ∃ result result', ((client.asking q.left).run id request cancel s).1 = some result ∧
      ((client.asking q.right).run id request cancel s').1 = some result' ∧
        result.Pairs (Failure.Twins q client.Voices) (Response.Twins U) result' ∧
          Scene.Twins q client.Voices W begun ((client.asking q.left).run id request cancel s).2
            ((client.asking q.right).run id request cancel s').2 := by
  have hended := (client.asking q.left).isSome_run id request cancel s
  simp only [run_eq_follow, ← hscenes.mirrors.clock] at hended ⊢
  obtain ⟨hbegun, hscenes⟩ := hscenes.perform <|
    h.begin id request s.clock (isPast cancel s.clock.now)
  obtain ⟨hfollowed, hscenes⟩ := h.follow cancel maxWaits _ _ _ _ hbegun hscenes
  revert hended hfollowed hscenes
  generalize (client.asking q.left).follow cancel maxWaits _ _ = followed
  generalize (client.asking q.right).follow cancel maxWaits _ _ = followed'
  obtain ⟨progress, t⟩ := followed
  obtain ⟨progress', t'⟩ := followed'
  rintro hended (hprogress | hf | crash) hscenes
  · cases hprogress with
    | waits => cases hended
    | answered hresponse => exact ⟨_, _, rfl, rfl, .ok hresponse, hscenes⟩
  · exact ⟨_, _, rfl, rfl, .fail hf, hscenes⟩
  · exact ⟨_, _, rfl, rfl, .crash crash, hscenes⟩

end Client.Blind

end Courier
