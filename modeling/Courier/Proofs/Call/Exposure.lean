import Courier.Proofs.Call.TwinRuns

/-!
# Credentials in a query are exposed

Credentials that come as parameters of the query are part of the URL, and a call shows its URL : in
the first line that it traces, and in what is left of a status failure when it is redacted. So two
runs whose credentials have different values are told apart by their traces as soon as anything is
traced, and by their redacted failures always (`Client.query_exposed`, `Client.query_not_veiled`).
Nothing else gives them away. Line by line, the traces are the same but for the URL.
-/

namespace Courier

variable {σ : Type} {q : Form.Twins} {U : Option Url → Option Url → Prop} {W : σ → σ → Prop}
  {client : Client σ}

/-! ## What a redacted failure shows -/

/-- A redacted failure shows the URL. -/
theorem StatusFailure.redacted_eq_iff (e e' : StatusFailure) (hmethod : e.method = e'.method)
    (htext : e.text = e'.text) : e.redacted = e'.redacted ↔ e.url = e'.url := by
  simp only [redacted, requestLine, hmethod, htext, String.append_left_inj, String.append_right_inj]

/-- A twin of a status failure is one. Redacted, they are the same exactly if the parameters are. -/
theorem Failure.Twins.exists_status {Voiced : StatusFailure → Prop} {f f' : Failure}
    {e : StatusFailure} (h : f.Twins q Voiced f') (hstatus : f = .status e) (hvoiced : ¬Voiced e) :
    ∃ e', f' = .status e' ∧ (e.redacted = e'.redacted ↔ q.left = q.right) := by
  cases h with
  | same _ hsame => exact absurd (hsame e hstatus) hvoiced
  | @status e₀ r r' hr =>
    cases hstatus
    exact ⟨_, rfl, (StatusFailure.redacted_eq_iff { e₀ with url := r.url.print }
      { e₀ with url := r'.url.print } rfl rfl).trans hr.print_eq_iff⟩
  | rateLimit => cases hstatus

namespace Client

theorem error_of_ofExcept {ε α : Type} {x : Except ε α} {e : ε}
    (h : Answer.ofExcept x = .error (.error e)) : x = .error e := by
  cases x <;> cases h
  rfl

/-- A response that does not decode gives a failure with the URL that it came from. -/
theorem exists_decode {id : Nat} {method : String} {shape : Shape} {now : Instant}
    {response response' : Response} {e : StatusFailure} (hresponse : response.Twins U response')
    (params params' : Form.Pairs)
    (hfails : (client.asking params).decode id method shape response now = .error (.status e)) :
    ∃ e', (client.asking params').decode id method shape response' now = .error (.status e') ∧
      (e.redacted = e'.redacted ↔
        (response.url.map Url.print).getD "" = (response'.url.map Url.print).getD "") := by
  have hentity : response.entity? = response'.entity? := by
    simp only [Response.entity?, Response.contentType, hresponse.headers, hresponse.body]
  unfold decode at hfails ⊢
  rw [hresponse.status, hentity] at hfails
  split at hfails
  · next hempty =>
    unfold Response.value at hfails
    rw [hresponse.status, if_pos (show response'.status = 204 from hempty)] at hfails
    cases hnull : shape.ofNull <;> rw [hnull] at hfails <;> cases hfails
  · next hcontent =>
    rw [if_neg hcontent]
    cases hentity' : response'.entity? with
    | none => simp [hentity'] at hfails
    | some entity =>
      simp only [hentity'] at hfails ⊢
      cases hdecode : Codec.decode entity.contentType shape entity.data with
      | ok value =>
        rw [hdecode] at hfails
        cases hfails
      | error fault =>
        rw [hdecode] at hfails
        cases hfails
        exact ⟨_, rfl, StatusFailure.redacted_eq_iff _ _ rfl rfl⟩

/-! ## Exposure -/

/-- What a run traces, and the status failure that it ends in, show whether the values are the
same. -/
theorem run_exposed (hblind : client.Blind q U W) {begun : Timeline} {s s' : Scene σ}
    (hscenes : Scene.Twins q client.Voices W begun s s') (id : Nat) (request : Request)
    (cancel : Option Instant) :
    let ran := (client.asking q.left).run id request cancel s
    let ran' := (client.asking q.right).run id request cancel s'
    (ran.2.log.traces = ran'.2.log.traces ↔ q.left = q.right ∨ ran.2.log.traces = begun.traces) ∧
    List.Forall₂ (fun l l' => l.1 = l'.1 ∧ l.2.Twins q l'.2) ran.2.log.traces
      ran'.2.log.traces ∧
    ∀ e, ran.1 = some (.error (.error (.status e))) → ¬client.Voices e →
      ∃ e', ran'.1 = some (.error (.error (.status e'))) ∧
        (e.redacted = e'.redacted ↔ q.left = q.right) := by
  obtain ⟨result, result', hresult, hresult', hpairs, hended⟩ :=
    hblind.run id request cancel hscenes
  refine ⟨hended.traces_eq_iff, hended.forall₂_traces, ?_⟩
  rw [hresult, hresult']
  rintro e ⟨rfl⟩ hvoiced
  cases hpairs with
  | fail hf =>
    obtain ⟨e', rfl, hshown⟩ := hf.exists_status rfl hvoiced
    exact ⟨e', rfl, hshown⟩

/-- So does the status failure of a call for a value. If the response did not decode, it shows the
URL that the response came from. -/
theorem exec_exposed (hblind : client.Blind q U W) {begun : Timeline} {s s' : Scene σ}
    (hscenes : Scene.Twins q client.Voices W begun s s')
    (hurls : ∀ a a', U a a' → ∃ base : Url, a = some (base.appendPairs q.left) ∧
      a' = some (base.appendPairs q.right)) (id : Nat) (request : Request) (shape : Shape)
    {e : StatusFailure} (hfails : ((client.asking q.left).exec id request shape s).1 =
      some (.error (.error (.status e)))) (hvoiced : ¬client.Voices e) :
    ∃ e', ((client.asking q.right).exec id request shape s').1 =
        some (.error (.error (.status e'))) ∧
      (e.redacted = e'.redacted ↔ q.left = q.right) := by
  obtain ⟨result, result', hresult, hresult', hpairs, hended⟩ :=
    hblind.run id request none hscenes
  unfold exec at hfails ⊢
  rcases hran : (client.asking q.left).run id request none s with ⟨_, t⟩
  rcases hran' : (client.asking q.right).run id request none s' with ⟨_, t'⟩
  rw [hran] at hresult hended hfails
  rw [hran'] at hresult' hended
  obtain rfl : _ = some result := hresult
  obtain rfl : _ = some result' := hresult'
  cases hpairs with
  | fail hf =>
    cases hfails
    obtain ⟨e', rfl, hshown⟩ := hf.exists_status rfl hvoiced
    exact ⟨e', rfl, hshown⟩
  | crash => cases hfails
  | @ok response response' hresponse =>
    have hclock : t.clock = t'.clock := hended.mirrors.clock
    obtain ⟨base, hurl, hurl'⟩ := hurls _ _ hresponse.url
    obtain ⟨e', hfails', hshown⟩ := exists_decode hresponse q.left q.right
      (error_of_ofExcept (Option.some.inj hfails))
    refine ⟨e', ?_, ?_⟩
    · simp only [← hclock, hfails']
      rfl
    · rw [hshown, hurl, hurl']
      exact ⟨Url.print_appendPairs_inj, fun heq => by rw [heq]⟩

/-- Credentials in a query are exposed. Two runs that only their values tell apart trace the same
exactly if the values are the same or nothing is traced, and what they trace differs in the URL
only. If one fails with a status, the other does, and the redacted failures are the same exactly if
the values are. So are those of calls for values, if responses come from where their requests
went. -/
theorem query_exposed (hblind : client.Blind q U W) {s s' : Scene σ}
    (hworld : W s.world s'.world) (hclock : s.clock = s'.clock) (hlog : s.log = s'.log)
    (id : Nat) (request : Request) :
    (∀ cancel, let ran := (client.asking q.left).run id request cancel s
      let ran' := (client.asking q.right).run id request cancel s'
      (ran.2.log.traces = ran'.2.log.traces ↔
        q.left = q.right ∨ ran.2.log.traces = s.log.traces) ∧
      List.Forall₂ (fun l l' => l.1 = l'.1 ∧ l.2.Twins q l'.2) ran.2.log.traces
        ran'.2.log.traces ∧
      ∀ e, ran.1 = some (.error (.error (.status e))) → ¬client.Voices e →
        ∃ e', ran'.1 = some (.error (.error (.status e'))) ∧
          (e.redacted = e'.redacted ↔ q.left = q.right)) ∧
    ((∀ a a', U a a' → ∃ base : Url, a = some (base.appendPairs q.left) ∧
        a' = some (base.appendPairs q.right)) →
      ∀ shape e, ((client.asking q.left).exec id request shape s).1 =
          some (.error (.error (.status e))) → ¬client.Voices e →
        ∃ e', ((client.asking q.right).exec id request shape s').1 =
            some (.error (.error (.status e'))) ∧
          (e.redacted = e'.redacted ↔ q.left = q.right)) := by
  have hscenes : Scene.Twins q client.Voices W s.log s s' := .start hworld hclock hlog
  exact ⟨run_exposed hblind hscenes id request, fun hurls shape _ hfails hvoiced =>
    exec_exposed hblind hscenes hurls id request shape hfails hvoiced⟩

theorem exec_of_error {id : Nat} {request : Request} {s : Scene σ} {stop : Stop Failure}
    (h : (client.run id request none s).1 = some (.error stop)) (shape : Shape) :
    (client.exec id request shape s).1 = some (.error stop) := by
  unfold exec
  rcases hran : client.run id request none s with ⟨_, t⟩
  rw [hran] at h
  obtain rfl := h
  rfl

/-- A client that traces its steps. Nothing is found where its requests go. -/
def exposed : Client Unit where
  base := none
  transport := fun _ r w => (⟨0, .ok ⟨404, some r.url, {}, some [], none⟩⟩, w)
  retryStatuses := []
  backoff := 0
  headers := {}
  contentType := ""
  tracing := { verbose := true }

/-- What comes to a log of a run : the lines that it traces, and a redacted status failure. -/
def logged (params : Form.Pairs) : List String × Option String :=
  let ran := (exposed.asking params).run 1 { target := "http://api.test/things" } none
    { clock := ⟨0, 0⟩, world := () }
  (ran.2.log.traces.map (·.2.text),
    match ran.1 with
    | some (.error (.error (.status e))) => some e.redacted
    | _ => none)

/-- A key in the query, for two clients. -/
def keys : Form.Twins :=
  ⟨[("api_key", "s3cr3t")], [("api_key", "hunter2")], rfl⟩

/-- The key comes to the trace and to the redacted failure. -/
theorem query_not_veiled :
    logged keys.left =
      (["GET http://api.test/things?api_key=s3cr3t"],
        some "GET http://api.test/things?api_key=s3cr3t: unexpected status code: 404 Not Found") ∧
    logged keys.right =
      (["GET http://api.test/things?api_key=hunter2"],
        some "GET http://api.test/things?api_key=hunter2: unexpected status code: 404 Not Found") ∧
    keys.left.map Prod.fst = keys.right.map Prod.fst ∧ logged keys.left ≠ logged keys.right := by
  decide +kernel

/-- The keys are told apart by what is traced, by the redacted failures of calls, and by those of
calls for values. -/
theorem query_exposed_keys :
    let s : Scene Unit := { clock := ⟨0, 0⟩, world := () }
    let request : Request := { target := "http://api.test/things" }
    ∃ U : Option Url → Option Url → Prop, exposed.Blind keys U Eq ∧
      ((exposed.asking keys.left).run 1 request none s).2.log.traces ≠
        ((exposed.asking keys.right).run 1 request none s).2.log.traces ∧
      (∃ e e', ((exposed.asking keys.left).run 1 request none s).1 =
          some (.error (.error (.status e))) ∧
        ((exposed.asking keys.right).run 1 request none s).1 =
          some (.error (.error (.status e'))) ∧ e.redacted ≠ e'.redacted) ∧
      ∃ e e', ((exposed.asking keys.left).exec 1 request default s).1 =
          some (.error (.error (.status e))) ∧
        ((exposed.asking keys.right).exec 1 request default s).1 =
          some (.error (.error (.status e'))) ∧ e.redacted ≠ e'.redacted := by
  intro s request
  have hblind : exposed.Blind keys (fun a a' => ∃ base : Url,
      a = some (base.appendPairs keys.left) ∧ a' = some (base.appendPairs keys.right)) Eq := by
    refine ⟨nofun, nofun, fun now r r' w w' hr hw => ⟨rfl, .ok ⟨rfl, ?_, rfl, rfl, rfl⟩, hw⟩⟩
    obtain ⟨base, hurl, hurl'⟩ := hr.url
    exact ⟨base, congrArg some hurl, congrArg some hurl'⟩
  have hvoices (e : StatusFailure) : ¬exposed.Voices e := nofun
  have hkeys : keys.left ≠ keys.right := by decide
  obtain ⟨hrun, hexec⟩ := query_exposed hblind (Eq.refl s.world) rfl rfl 1 request
  obtain ⟨htraces, -, hstatus⟩ := hrun none
  have htraced : ((exposed.asking keys.left).run 1 request none s).2.log.traces.length = 1 := by
    decide +kernel
  have hfailed : (match ((exposed.asking keys.left).run 1 request none s).1 with
      | some (.error (.error (.status _))) => true
      | _ => false) = true := by
    decide +kernel
  obtain ⟨e, hfails⟩ : ∃ e, ((exposed.asking keys.left).run 1 request none s).1 =
      some (.error (.error (.status e))) := by
    split at hfailed
    · next hfails => exact ⟨_, hfails⟩
    · cases hfailed
  have hgot := exec_of_error hfails default
  obtain ⟨e', hfails', hshown⟩ := hstatus e hfails (hvoices e)
  obtain ⟨e'', hgot', hshown'⟩ := hexec (fun _ _ => id) default e hgot (hvoices e)
  refine ⟨_, hblind, fun heq => ?_, ⟨e, e', hfails, hfails', fun heq => hkeys (hshown.1 heq)⟩,
    e, e'', hgot, hgot', fun heq => hkeys (hshown'.1 heq)⟩
  rcases htraces.1 heq with hsame | hquiet
  · exact hkeys hsame
  · rw [hquiet] at htraced
    cases htraced

end Client

end Courier
