import Courier.Call.Exec
import Courier.Proofs.Call.Resending
import Courier.Proofs.Call.Veiling
import Courier.Proofs.Header.Dump

/-!
# Secrets stay out of traces

Veiled clients are the same to a reader of their traces, of their failures and of their notation for
diagnostics (`Client.secrets_veiled`). A secret in a header comes to any of these as its length and
digest only, whatever serves as the digest, and a dump has one line for each value.

Collaborators have to answer alike for this. Credentials do whose texts have the same length and
digest (`Credentials.Veiled.authorize`), and so does a quota that listens to the server, since it
reads no header that carries credentials (`Quota.veils_limiter`).
-/

namespace Courier

open Header (Name Value)

variable {σ : Type} {digest : Bytes → Bytes} {W : σ → σ → Prop}

/-! ## Credentials -/

/-- Texts that are values of headers or are none, of the same length and digest. -/
structure Header.Value.TextVeiled (digest : Bytes → Bytes) (s s' : String) : Prop where
  valid : (Value.ofText? s).isSome = (Value.ofText? s').isSome
  length : (Utf8.encode s).length = (Utf8.encode s').length
  digest : digest (Utf8.encode s) = digest (Utf8.encode s')

theorem Header.Value.bytes_of_ofText? {s : String} {v : Value} (h : Value.ofText? s = some v) :
    v.bytes = Utf8.encode s := by
  unfold Value.ofText? Value.parse? at h
  split at h
  · rw [← Option.some.inj h]
  · cases h

namespace Credentials

/-- Credentials of one kind whose texts are veiled. -/
inductive Veiled (digest : Bytes → Bytes) (W : σ → σ → Prop) :
    Credentials σ → Credentials σ → Prop where
  | header {h h' : Headers} (hheaders : h.Veiled digest Redaction.isSecret h') :
      Veiled digest W (.header h) (.header h')
  | query (params : Form.Pairs) : Veiled digest W (.query params) (.query params)
  | basic {username password username' password' : String}
      (htext : Value.TextVeiled digest
        ("Basic " ++ Base64.encode (Utf8.encode (username ++ ":" ++ password)))
        ("Basic " ++ Base64.encode (Utf8.encode (username' ++ ":" ++ password')))) :
      Veiled digest W (.basic username password) (.basic username' password')
  | bearer {token token' : String}
      (htext : Value.TextVeiled digest ("Bearer " ++ token) ("Bearer " ++ token')) :
      Veiled digest W (.bearer token) (.bearer token')
  | oauth {source source' : σ → Answer AuthFault Token × σ}
      (hsource : AnswerAlike W (fun t t' => Value.TextVeiled digest
        (t.scheme ++ " " ++ t.text) (t'.scheme ++ " " ++ t'.text)) source source') :
      Veiled digest W (.oauth source) (.oauth source')

theorem exists_of_single {name v : String} {c : Credentials σ} (h : single name v = .ok c) :
    ∃ n value, Header.Name.parse? name = some n ∧ Value.ofText? v = some value ∧
      c = .header (Headers.empty.insert n value.secret) := by
  unfold single at h
  split at h
  · next n value hname hvalue => exact ⟨n, value, hname, hvalue, (Except.ok.inj h).symm⟩
  · cases h

/-- Single headers with secret values of the same length and digest are veiled. -/
theorem single_veiled {name v v' : String} {c c' : Credentials σ} (hc : single name v = .ok c)
    (hc' : single name v' = .ok c') (hlength : (Utf8.encode v).length = (Utf8.encode v').length)
    (hdigest : digest (Utf8.encode v) = digest (Utf8.encode v')) : c.Veiled digest W c' := by
  obtain ⟨n, value, hname, hvalue, rfl⟩ := exists_of_single hc
  obtain ⟨n', value', hname', hvalue', rfl⟩ := exists_of_single hc'
  obtain rfl : n = n' := Option.some.inj (hname.symm.trans hname')
  rw [← Value.bytes_of_ofText? hvalue, ← Value.bytes_of_ofText? hvalue'] at hlength hdigest
  exact .header ((Headers.Veiled.refl _).insert (Value.veiled_secret hlength hdigest))

theorem authorized_veiled {r r' : Outgoing} {s s' : String} (hr : r.Veiled digest r')
    (htext : Value.TextVeiled digest s s') :
    (authorized r s).Matches (Outgoing.Veiled digest) (authorized r' s') := by
  obtain ⟨hvalid, hlength, hdigest⟩ := htext
  unfold authorized
  cases hvalue : Value.ofText? s with
  | none =>
    have hnone : Value.ofText? s' = none := by simpa [hvalue] using hvalid
    rw [hnone]
    exact .error _
  | some v =>
    have hsome : (Value.ofText? s').isSome := by simpa [hvalue] using hvalid
    obtain ⟨v', hvalue'⟩ := Option.isSome_iff_exists.1 hsome
    rw [hvalue']
    rw [← Value.bytes_of_ofText? hvalue, ← Value.bytes_of_ofText? hvalue'] at hlength hdigest
    exact .ok ⟨hr.method, hr.url, hr.headers.insert (Value.veiled_secret hlength hdigest), hr.body⟩

/-- Veiled credentials make veiled requests of veiled requests. -/
theorem Veiled.authorize {c c' : Credentials σ} (h : c.Veiled digest W c') :
    Authorizer.Veils digest W c.authorize c'.authorize := by
  intro r r' hr w w' hw
  cases h with
  | header hheaders =>
    exact ⟨.ok ⟨hr.method, hr.url, hr.headers.firstValues hheaders, hr.body⟩, hw⟩
  | query params =>
    have hurl : r.url.appendPairs params = r'.url.appendPairs params := by rw [hr.url]
    exact ⟨.ok ⟨hr.method, hurl, hr.headers, hr.body⟩, hw⟩
  | basic htext =>
    simp only [Credentials.authorize]
    exact ⟨authorized_veiled hr htext, hw⟩
  | bearer htext =>
    simp only [Credentials.authorize]
    exact ⟨authorized_veiled hr htext, hw⟩
  | @oauth source source' hsource =>
    obtain ⟨hanswer, hworld⟩ := hsource w w' hw
    simp only [Credentials.authorize]
    revert hanswer hworld
    generalize source w = said, source' w' = said'
    obtain ⟨answer, v⟩ := said
    obtain ⟨answer', v'⟩ := said'
    rintro (htext | stop) hworld
    · exact ⟨authorized_veiled hr htext, hworld⟩
    · exact ⟨.error stop, hworld⟩

end Credentials

/-! ## Quotas -/

namespace Quota

variable {h h' : Headers}

theorem stated_eq {names : List Name} (hnames : ∀ n ∈ names, h.first? n = h'.first? n) :
    stated h names = stated h' names := by
  induction names with
  | nil => rfl
  | cons n names ih =>
    obtain ⟨hn, hnames⟩ := List.forall_mem_cons.1 hnames
    unfold stated
    rw [hn, ih hnames]

/-- A quota reads no header that carries credentials. -/
theorem update_eq (q : Quota) (hveiled : h.Veiled digest Redaction.isCredential h') (w : Window)
    (clock : Clock) (status : Status) : q.update w clock status h = q.update w clock status h' := by
  have hfirst (n : Name) (hn : n ∉ Redaction.credentialNames) : h.first? n = h'.first? n :=
    hveiled.first?_eq fun _ => decide_eq_false hn
  have hlimit : stated h limitNames = stated h' limitNames :=
    stated_eq fun n hn => hfirst n (by revert n; decide)
  have hremaining : stated h remainingNames = stated h' remainingNames :=
    stated_eq fun n hn => hfirst n (by revert n; decide)
  have hreset : stated h resetNames = stated h' resetNames :=
    stated_eq fun n hn => hfirst n (by revert n; decide)
  unfold update takeStated
  rw [hlimit, hremaining, hreset, hfirst Header.retryAfter (by decide)]

/-- Limiters that are one quota, with the same window in related worlds, answer alike. -/
theorem veils_limiter (q : Quota) {window : σ → Window} {keep : Window → σ → σ}
    (hwindow : ∀ w w', W w w' → window w = window w')
    (hkeep : ∀ v w w', W w w' → W (keep v w) (keep v w')) :
    Limiter.Veils digest W (q.limiter window keep) (q.limiter window keep) where
  report now w w' hw := by
    simp only [limiter, hwindow w w' hw]
    exact ⟨Answer.matches_self _, hkeep _ w w' hw⟩
  next now _ _ _ w w' hw := by
    simp only [limiter, hwindow w w' hw]
    exact ⟨Answer.matches_self _, hkeep _ w w' hw⟩
  update _ clock r r' hr w w' hw := by
    simp only [limiter, answer, hwindow w w' hw, hr.status, q.update_eq hr.headers]
    exact ⟨Answer.matches_self _, hkeep _ w w' hw⟩

end Quota

/-! ## What a reader sees -/

/-- The line of a trace that an event is. -/
def Event.trace? : Event → Option Trace
  | .traces t => some t
  | _ => none

/-- The lines of a trace with their times. -/
def Timeline.traces (log : Timeline) : List (Instant × Trace) :=
  log.filterMap fun (t, e) => e.trace?.map (t, ·)

/-- The wording of the failure that an answer is, at an instant. -/
def Answer.wording? {α : Type} (now : Instant) : Answer Failure α → Option String
  | .error (.error f) => some (f.message now)
  | _ => none

theorem Answer.Matches.wording?_eq {α β : Type} {Q : α → β → Prop} {answer : Answer Failure α}
    {answer' : Answer Failure β} (h : answer.Matches Q answer') (now : Instant) :
    answer.wording? now = answer'.wording? now := by
  cases h with
  | ok => rfl
  | error stop => cases stop <;> rfl

theorem Event.Veiled.trace?_eq {e e' : Event} (h : e.Veiled digest e') : e.trace? = e'.trace? := by
  cases h <;> rfl

theorem Scene.Mirrors.traces_eq {s s' : Scene σ} (h : s.Mirrors W (Event.Veiled digest) s') :
    s.log.traces = s'.log.traces := by
  unfold Timeline.traces
  generalize hlog : s.log = log, hlog' : s'.log = log'
  have hevents := h.log
  rw [hlog, hlog'] at hevents
  clear hlog hlog'
  induction hevents with
  | nil => rfl
  | @cons e e' _ _ he _ ih =>
    obtain ⟨t, e⟩ := e
    obtain ⟨t', e'⟩ := e'
    obtain ⟨rfl, hevent⟩ : t = t' ∧ e.Veiled digest e' := he
    simp only [List.filterMap_cons, hevent.trace?_eq, ih]

/-- A dump of a header map is one line of a trace, whose text has a head and then one line for each
value, in the order of the map. -/
theorem Call.sayHeaders_lines (c : Call) (digest : Bytes → Bytes) {what : String} {h : Headers}
    (hwhat : Text.IsLine what) (hsound : h.Sound) (w : σ) :
    ∃ text, (c.sayHeaders digest what h).perform w =
        (.ok (), w, [.traces { text, call := some c.id }]) ∧
      Text.lines text = (what ++ " headers:") ::
        h.fields.map fun field => "   - " ++ Redaction.line digest field :=
  ⟨_, rfl, Headers.lines_dump hsound digest hwhat ⟨by decide, by decide⟩⟩

namespace Client

variable {client client' : Client σ}

/-- Notations of veiled clients are the same. -/
theorem Veils.describe_eq (h : client.Veils W client') : client.describe = client'.describe := by
  have hauthorizer : client.authorizer.map (fun _ => Text.quoted "<redacted>") =
      client'.authorizer.map fun _ => Text.quoted "<redacted>" :=
    map_eq_of_rel (fun _ _ _ => rfl) h.authorizer
  unfold describe
  rw [h.base, hauthorizer, isSome_eq_of_rel h.limiter, h.retryStatuses, h.backoff, h.contentType,
    h.tracing, ← h.digest, h.headers.sanitized_eq]

theorem Veils.decode_eq (h : client.Veils W client') {response response' : Response}
    (hresponse : response.Veiled client.digest response') (id : Nat) (method : String)
    (shape : Shape) (now : Instant) :
    client.decode id method shape response now = client'.decode id method shape response' now := by
  unfold decode Response.value decodeFailure traces
  rw [hresponse.status, hresponse.entity?_eq, hresponse.url, h.tracing]

/-- Secrets in headers come to traces, failures and notations of clients as lengths and digests
only. Veiled clients have the same notation. Their runs trace the same lines at the same times, and
have the same failure, in the same words, or veiled responses ; and calls for values give the same.
A dump has one line for each value, in the order of the map. -/
theorem secrets_veiled (hclients : client.Veils W client') {request request' : Request}
    (hrequest : request.Veiled client.digest request') {s s' : Scene σ}
    (hscenes : s.Mirrors W (Event.Veiled client.digest) s') :
    client.describe = client'.describe ∧
    (∀ id cancel, let ran := client.run id request cancel s
      let ran' := client'.run id request' cancel s'
      ran.2.log.traces = ran'.2.log.traces ∧ ran.2.clock = ran'.2.clock ∧
        ∃ result result', ran.1 = some result ∧ ran'.1 = some result' ∧
          result.Matches (Response.Veiled client.digest) result' ∧
          ∀ now, result.wording? now = result'.wording? now) ∧
    (∀ id shape, let got := client.exec id request shape s
      let got' := client'.exec id request' shape s'
      got.2.log.traces = got'.2.log.traces ∧ got.1 = got'.1) ∧
    ∀ (c : Call) (what : String) (h : Headers) (w : σ), Text.IsLine what → h.Sound →
      ∃ text, (c.sayHeaders client.digest what h).perform w =
          (.ok (), w, [.traces { text, call := some c.id }]) ∧
        Text.lines text = (what ++ " headers:") ::
          h.fields.map fun field => "   - " ++ Redaction.line client.digest field := by
  refine ⟨hclients.describe_eq, fun id cancel => ?_, fun id shape => ?_,
    fun c what h w hwhat hsound => c.sayHeaders_lines client.digest hwhat hsound w⟩
  · obtain ⟨result, result', hresult, hresult', hmatches, hended⟩ :=
      hclients.run id hrequest cancel hscenes
    exact ⟨hended.traces_eq, hended.clock, result, result', hresult, hresult', hmatches,
      hmatches.wording?_eq⟩
  · obtain ⟨result, result', hresult, hresult', hmatches, hended⟩ :=
      hclients.run id hrequest none hscenes
    unfold exec
    rcases hran : client.run id request none s with ⟨_, t⟩
    rcases hran' : client'.run id request' none s' with ⟨_, t'⟩
    rw [hran] at hresult hended
    rw [hran'] at hresult' hended
    obtain rfl : _ = some result := hresult
    obtain rfl : _ = some result' := hresult'
    cases hmatches with
    | error stop => exact ⟨hended.traces_eq, rfl⟩
    | ok hresponse =>
      have hclock : t.clock = t'.clock := hended.clock
      refine ⟨hended.traces_eq, ?_⟩
      simp only [hclients.decode_eq hresponse, hrequest.method, hclock]

/-- A client with a token, a quota that is its world, and a server that sets a cookie. Everything
is traced, and the sum of a secret serves as its digest. -/
def sealed (token cookie : String) : Client Window where
  base := none
  authorizer := some (Credentials.bearer token).authorize
  limiter := some (({} : Quota).limiter id fun w _ => w)
  transport := fun _ _ w => (⟨0, .ok ⟨200, none,
    .ofFields [(Header.setCookie, ⟨Utf8.encode cookie, false⟩)], some [104, 105], none⟩⟩, w)
  retryStatuses := []
  backoff := 0
  headers := .ofFields [(Header.accept, ⟨[42], false⟩)]
  contentType := ""
  tracing := { debug := true, verbose := true }
  digest := fun bytes => [bytes.foldl (· + ·) 0]

/-- Tokens and cookies with the same sum are not told apart. -/
theorem sealed_veils {token token' cookie cookie' : String}
    (htoken : Value.TextVeiled (sealed token cookie).digest ("Bearer " ++ token)
      ("Bearer " ++ token'))
    (hlength : (Utf8.encode cookie).length = (Utf8.encode cookie').length)
    (hdigest : (sealed token cookie).digest (Utf8.encode cookie) =
      (sealed token cookie).digest (Utf8.encode cookie')) :
    (sealed token cookie).Veils Eq (sealed token' cookie') where
  digest := rfl
  base := rfl
  authorizer := .some (Credentials.Veiled.bearer htoken).authorize
  limiter := .some (Quota.veils_limiter _ (fun _ _ hw => hw) fun _ _ _ _ => rfl)
  observers := .nil
  transport := by
    intro now r r' w w' hr hw
    have hcookies : Headers.Veiled (sealed token cookie).digest Redaction.isCredential
        (.ofFields [(Header.setCookie, ⟨Utf8.encode cookie, false⟩)])
        (.ofFields [(Header.setCookie, ⟨Utf8.encode cookie', false⟩)]) :=
      (Headers.Veiled.refl .empty).append (.masked rfl rfl hlength hdigest)
    exact ⟨rfl, .ok ⟨rfl, rfl, hcookies, rfl, rfl⟩, hw⟩
  retryStatuses := rfl
  backoff := rfl
  headers := .refl _
  contentType := rfl
  tracing := rfl

/-- The token and the cookie differ, but nothing that is traced. -/
theorem secrets_veiled_sealed :
    let s : Scene Window := { clock := ⟨0, 0⟩, world := ⟨60, 60, 60, none⟩ }
    let client := sealed "ab" "cd"
    let client' := sealed "ba" "dc"
    let ran := client.run 0 { target := "mem:a" } none s
    let ran' := client'.run 0 { target := "mem:a" } none s
    (ran.2.log.sends ≠ ran'.2.log.sends ∧ ran.1 ≠ ran'.1 ∧ ran.2.log.traces.length = 6) ∧
      client.describe = client'.describe ∧ ran.2.log.traces = ran'.2.log.traces ∧
      ∃ result result', ran.1 = some result ∧ ran'.1 = some result' ∧
        result.Matches (Response.Veiled client.digest) result' := by
  intro s client client' ran ran'
  refine ⟨by decide +kernel, ?_⟩
  have hclients : (sealed "ab" "cd").Veils Eq (sealed "ba" "dc") :=
    sealed_veils ⟨by decide, by decide, by decide⟩ (by decide) (by decide)
  have hrequest : ({ target := "mem:a" } : Request).Veiled (sealed "ab" "cd").digest
      { target := "mem:a" } := ⟨rfl, rfl, .refl _, rfl⟩
  have hscenes : s.Mirrors Eq (Event.Veiled (sealed "ab" "cd").digest) s := ⟨rfl, rfl, .nil⟩
  -- Nothing below is to compute what these clients do.
  subst ran ran' client client'
  generalize sealed "ab" "cd" = client, sealed "ba" "dc" = client' at *
  obtain ⟨hdescribe, hruns, -⟩ := secrets_veiled hclients hrequest hscenes
  obtain ⟨htraces, -, result, result', hresult, hresult', hmatches, -⟩ := hruns 0 none
  exact ⟨hdescribe, htraces, result, result', hresult, hresult', hmatches⟩

end Client

end Courier
