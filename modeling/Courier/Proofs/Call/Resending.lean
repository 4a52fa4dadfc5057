import Courier.Proofs.Call.Bookkeeping
import Courier.Proofs.Call.Agreement
import Courier.Proofs.Call.Failing
import Courier.Proofs.Quota.History
import Courier.Rehearsal.World

/-!
# What is sent again although it succeeded

A quota that paces a call (`Quota.limiter`) is shown each response before anyone looks at the
status, and what it asks for takes priority. Of a response that means success it looks at the
headers only : it asks for a retry if the numbers that they state make sense and their retry-after
names an instant that the clock shows (`Quota.retryOf?`), whatever its window
(`Quota.answer_retry_iff`). So a call whose request succeeded sends it again if the response itself
asks for that and sendings are left, and not otherwise : if the response asks for nothing the call
has it for its answer, or fails, and if it asks in vain the call fails with what the limiter
answered (`Client.resent_iff`).
-/

namespace Courier

open Limiter (Refusal)

namespace Quota

variable (q : Quota)

/-! ## What a quota answers to a response -/

/-- When a response that means success asks for its request to be sent again, if it does. -/
def retryOf? (clock : Clock) (headers : Headers) : Option Instant :=
  match (q.takeStated default clock headers).1 with
  | .error _ => none
  | .ok () =>
    ((headers.first? Header.retryAfter).bind (q.delayOf? clock)).bind clock.now.add?

/-- What a quota with a window answers to a response. -/
def answer (w : Window) (clock : Clock) (response : Response) : Answer Refusal Unit :=
  match (q.update w clock response.status response.headers).1 with
  | some answer => .ofExcept answer
  | none => .crashed .clockOverflow

/-- A limiter that is a quota, with its window somewhere in the world. -/
def limiter {σ : Type} (window : σ → Window) (keep : Window → σ → σ) : Limiter σ where
  report t s :=
    (.ofOption .clockOverflow (q.report (window s) t).1, keep (q.report (window s) t).2 s)
  next t _ s := (.ofOption .clockOverflow (q.next (window s) t).1, keep (q.next (window s) t).2 s)
  update _ clock response s :=
    (q.answer (window s) clock response,
      keep (q.update (window s) clock response.status response.headers).2 s)

variable {q} {w w' : Window} {clock : Clock} {headers : Headers} {status : Status}

/-- Whether stated numbers make sense does not depend on the window. -/
theorem takeStated_fst : (q.takeStated w clock headers).1 = (q.takeStated w' clock headers).1 := by
  unfold takeStated
  cases stated headers limitNames with
  | error => rfl
  | ok =>
    cases stated headers remainingNames with
    | error => rfl
    | ok =>
      rcases stated headers resetNames with _ | _ | n
      · rfl
      · rfl
      · cases h : q.instantOf? clock n <;> simp [h]

/-- When a quota asks to send a request again that succeeded depends on the headers of the response
only. -/
theorem answer_retry_iff {response : Response} {after : Instant}
    (h : Status.isSuccess response.status) :
    q.answer w clock response = .fail (.retry after) ↔
      (q.retryOf? clock response.headers).map (q.cap clock.now) = some after := by
  have hstatus : response.status ≠ Status.tooManyRequests := fun hmany => by
    rw [hmany] at h
    exact absurd h (by decide)
  have hstated : (q.takeStated default clock response.headers).1 =
      (q.takeStated w clock response.headers).1 := takeStated_fst
  unfold answer update retryOf?
  rw [hstated]
  rcases htaken : q.takeStated w clock response.headers with ⟨e | ⟨⟩, w'⟩
  · obtain ⟨name, value, rfl⟩ :=
      (takes_takeStated q w clock response.headers).refused e (by rw [htaken])
    simp [Answer.ofExcept, Answer.fail]
  · cases hheader : response.headers.first? Header.retryAfter with
    | none => simp [hstatus, Answer.ofExcept, Answer.fail]
    | some value =>
      cases hslot : (q.delayOf? clock value).bind clock.now.add? with
      | none => simp [hslot, Answer.ofExcept, Answer.fail]
      | some slot => simp [hslot, Answer.ofExcept, Answer.fail]

end Quota

/-! ## The quota of a rehearsal -/

namespace Rehearsal.World

variable (slot : Nat)

/-- The window in a slot. -/
def windowAt (w : World) : Window :=
  match w.pacers[slot]? with
  | some (.quota _ window) => window
  | _ => default

/-- The world with a window of a quota in a slot. -/
def keepAt (q : Quota) (window : Window) (w : World) : World :=
  { w with pacers := w.pacers.set slot (.quota q window) }

/-- Where a slot of the world holds a quota, the limiter in the slot is this quota. -/
theorem limiter_eq {slot : Nat} {q : Quota} {window : Window} {w : World}
    (h : w.pacers[slot]? = some (.quota q window)) :
    let l := q.limiter (windowAt slot) (keepAt slot q)
    (∀ t, (limiter slot).report t w = l.report t w) ∧
      (∀ t request, (limiter slot).next t request w = l.next t request w) ∧
      ∀ start clock response,
        (limiter slot).update start clock response w = l.update start clock response w := by
  have hwindow : windowAt slot w = window := by simp [windowAt, h]
  refine ⟨fun t => ?_, fun t request => ?_, fun _ clock response => ?_⟩
  · simp [limiter, Quota.limiter, usePacer, h, Pacer.report, hwindow, keepAt]
  · simp [limiter, Quota.limiter, usePacer, h, Pacer.next, hwindow, keepAt]
  · rcases hupdate : q.update window clock response.status response.headers with ⟨_ | _, _⟩ <;>
      simp [limiter, Quota.limiter, usePacer, h, Pacer.update, hwindow, keepAt, Quota.answer,
        hupdate]

end Rehearsal.World

/-! ## Replies of a call that a quota paces -/

/-- What the limiter answers in a tale are answers of a quota. -/
def Quota.Heeded (q : Quota) (epoch : Int) (tale : Tale) : Prop :=
  ∀ t start response answer, (t, .shows start response answer) ∈ tale →
    ∃ w, answer = q.answer w ⟨t, epoch⟩ response

theorem Quota.Heeded.mono {q : Quota} {epoch : Int} {tale more : Tale} (h : q.Heeded epoch tale)
    (hmore : more ⊆ tale) : q.Heeded epoch more :=
  fun t start response answer hmem => h t start response answer (hmore hmem)

/-- A call that has sent a request comes to a failure, unless an observer crashes that is told of
it. -/
def Tale.FailsWith (tale : Tale) (sent : Outgoing) (f : Failure)
    (result : Answer Failure Response) : Prop :=
  result = .fail f ∨
    ∃ t i crash, (t, .failed i sent f (.crashed crash)) ∈ tale ∧ result = .crashed crash

theorem Tale.exists_sends {tale : Tale} {t : Instant} {d : Delivery} (h : (t, d) ∈ tale.sendings) :
    ∃ sent, (t, .sends sent d) ∈ tale := by
  obtain ⟨⟨t', word⟩, hmem, heq⟩ := List.mem_filterMap.1 h
  cases word with
  | sends sent delivery =>
    cases heq
    exact ⟨sent, hmem⟩
  | _ => cases heq

namespace Client

variable {σ : Type} {client : Client σ} {q : Quota} {window : σ → Window} {keep : Window → σ → σ}
  {id : Nat} {request : Request} {start : Instant} {cancel : Option Instant} {c : Call} {n : Nat}
  {tale last : Tale} {s s' : Scene σ}

/-- Each word of a tale is said in some world. -/
theorem exists_says {word : Word} {t : Instant} (h : s.Recounts client tale s')
    (hmem : (t, word) ∈ tale) : ∃ w w', client.Says ⟨t, s.clock.epoch⟩ w word w' := by
  obtain ⟨before, after, rfl⟩ := List.append_of_mem hmem
  obtain ⟨w, w', -, hspoken, -⟩ := h.said.exists_cons
  exact ⟨w, w', hspoken⟩

/-- A limiter that is a quota answers like one. -/
theorem heeded (hlimiter : client.limiter = some (q.limiter window keep))
    (h : s.Recounts client tale s') : q.Heeded s.clock.epoch tale := by
  intro t start response answer hmem
  obtain ⟨w, w', l, hl, hanswer⟩ := exists_says h hmem
  obtain rfl := Option.some.inj (hlimiter.symm.trans hl)
  exact ⟨window w, (Prod.mk.inj hanswer).1.symm⟩

/-- A response that means success ends a call unless the limiter asks for a retry. -/
theorem final_ofAnswer_iff {response : Response} {answer : Answer Refusal Unit}
    (h : Status.isSuccess response.status) :
    client.Final (.ofAnswer response answer) ↔ ¬∃ after, answer = .fail (.retry after) := by
  rcases answer with (refusal | crash) | ⟨⟩
  · simp [Reply.ofAnswer, Final, h, Answer.fail]
  · simp [Reply.ofAnswer, Final, Answer.fail]
  · simp [Reply.ofAnswer, Final, h, Answer.fail]

/-- A response that means success is the last if it does not ask for a retry. -/
theorem Replies.final_iff {reply : Reply} {t : Instant} {d : Delivery} {response : Response}
    {epoch : Int} (h : client.Replies c tale reply) (hlimiter : client.limiter.isSome)
    (hheeded : q.Heeded epoch tale) (hsent : tale.sendings = [(t, d)])
    (hd : d.result = .ok response) (hsuccess : Status.isSuccess response.status) :
    client.Final reply ↔ q.retryOf? ⟨t.wake d.after, epoch⟩ response.headers = none := by
  cases h with
  | fault hresult =>
    cases hsent
    cases hd.symm.trans hresult
  | free hnone => simp [hnone] at hlimiter
  | @shown t' d' response' answer _ hresult =>
    cases hsent
    cases hd.symm.trans hresult
    obtain ⟨w, rfl⟩ := hheeded _ _ _ _ (List.mem_cons_of_mem _ (List.mem_singleton_self _))
    simp only [final_ofAnswer_iff hsuccess, Quota.answer_retry_iff hsuccess,
      ← Option.isSome_iff_exists, Option.isSome_map, Option.not_isSome_iff_eq_none]

/-- The verdict on a response that means success and asks for a retry is the limiter's refusal. -/
theorem Replies.verdict_eq {reply : Reply} {t after : Instant} {d : Delivery} {response : Response}
    {epoch : Int} (h : client.Replies c tale reply) (hlimiter : client.limiter.isSome)
    (hheeded : q.Heeded epoch tale) (hsent : tale.sendings = [(t, d)])
    (hd : d.result = .ok response) (hsuccess : Status.isSuccess response.status)
    (hasked : q.retryOf? ⟨t.wake d.after, epoch⟩ response.headers = some after) :
    (t, .sends c.request d) ∈ tale ∧
      verdict c reply = .fail (c.refused (.retry (q.cap (t.wake d.after) after))) := by
  cases h with
  | fault hresult =>
    cases hsent
    cases hd.symm.trans hresult
  | free hnone => simp [hnone] at hlimiter
  | @shown t' d' response' answer _ hresult =>
    cases hsent
    cases hd.symm.trans hresult
    obtain ⟨w, rfl⟩ := hheeded _ _ _ _ (List.mem_cons_of_mem _ (List.mem_singleton_self _))
    have hretry := (Quota.answer_retry_iff (w := w) hsuccess).2 (congrArg (Option.map _) hasked)
    rw [hretry]
    exact ⟨List.mem_cons_self, rfl⟩

/-- All sendings but the last have replies that are not final. -/
theorem Exchanges.exists_replies (h : client.Exchanges c n tale) :
    tale.sendings.length = n ∧ n ≤ maxRetries ∧
      ∀ sending ∈ tale.sendings, ∃ more reply, more ⊆ tale ∧ client.Replies c more reply ∧
        more.sendings = [sending] ∧ ¬client.Final reply := by
  induction h with
  | nil => exact ⟨rfl, Nat.zero_le _, nofun⟩
  | @snoc n tale more reply _ hreplies hreply hleft ih =>
    obtain ⟨hlength, -, ih⟩ := ih
    obtain ⟨t, d, hsent, -⟩ := hreplies.sendings_eq
    refine ⟨by simp [hsent, hlength], hleft, fun sending hsending => ?_⟩
    rw [Tale.sendings_append, List.mem_append] at hsending
    rcases hsending with hsending | hsending
    · obtain ⟨more', reply', hmore, hrest⟩ := ih sending hsending
      exact ⟨more', reply', List.subset_append_of_subset_left _ hmore, hrest⟩
    · rw [hsent, List.mem_singleton] at hsending
      exact ⟨more, reply, List.subset_append_right _ _, hreplies, hsending ▸ hsent, hreply⟩

/-- A call sends at most once more before it ends. -/
theorem Ends.eq_of_getElem? {answer : Answer Failure Response} {k : Nat}
    {sending : Instant × Delivery} (h : client.Ends c cancel n last answer)
    (hk : last.sendings[k]? = some sending) :
    k = 0 ∧ last.sendings = [sending] ∧
      (cancel.isSome ∧ answer = .fail .canceled ∨
        ∃ reply, client.Replies c last reply ∧ (client.Final reply ∨ n = maxRetries) ∧
          answer = verdict c reply) := by
  have hone {t : Instant} {d : Delivery} (hsent : last.sendings = [(t, d)]) :
      k = 0 ∧ last.sendings = [sending] := by
    rw [hsent] at hk ⊢
    cases k with
    | zero =>
      cases hk
      exact ⟨rfl, rfl⟩
    | succ => simp at hk
  cases h with
  | canceled => cases hk
  | cut hcancel =>
    obtain ⟨hk, hsent⟩ := hone rfl
    exact ⟨hk, hsent, .inl ⟨hcancel, rfl⟩⟩
  | decided hreplies hreply =>
    obtain ⟨t, d, hsent, -⟩ := hreplies.sendings_eq
    obtain ⟨hk, hsent⟩ := hone hsent
    exact ⟨hk, hsent, .inr ⟨_, hreplies, hreply, rfl⟩⟩

/-- A call that is not canceled sends before it ends. -/
theorem Ends.length_sendings {answer : Answer Failure Response}
    (h : client.Ends c none n last answer) : last.sendings.length = 1 := by
  cases h with
  | canceled hcancel | cut hcancel => cases hcancel
  | decided hreplies =>
    obtain ⟨t, d, hsent, -⟩ := hreplies.sendings_eq
    rw [hsent]
    rfl

/-- The response that observers are told of is the one that came. -/
theorem plain_of_shown {response shown : Response} (h : c.shown? response = some shown) :
    shown.plain = response.plain := by
  unfold Call.shown? at h
  split at h
  · obtain ⟨body, hbody, rfl⟩ := Option.map_eq_some_iff.1 h
    simp [Response.plain, Response.restored, hbody]
  · cases h
    rfl

/-- An observer that crashes when it is told of a failure does so with a word. -/
theorem Fails.exists_crash {f : Failure} {words : List Word} {crash : Crash}
    (h : client.Fails c f words (.crashed crash)) :
    ∃ i, .failed i c.request f (.crashed crash) ∈ words := by
  obtain ⟨i, -, -, rfl⟩ := Polled.eq_of_error h
  exact ⟨i, List.mem_append_right _ (List.mem_singleton_self _)⟩

/-- A call that is under way has the number that it was given. -/
theorem Underway.id_eq (h : client.Underway c id request start n tale) : c.id = id := by
  obtain ⟨⟨⟨hprepares, -⟩, -⟩, -⟩ := h
  generalize hprepared : (.ok c : Answer Failure Call) = answer at hprepares
  cases hprepares with
  | unresolved => cases hprepared
  | bare =>
    cases hprepared
    rfl
  | @asked _ answer =>
    rcases answer with (fault | crash) | authorized <;> cases hprepared
    rfl

/-- The parts of a call that came to send : what it exchanged before its last sending, and that one,
whose reply decides on an answer. The result is this answer, as the observers leave it. -/
structure Parts (client : Client σ) (id : Nat) (cancel : Option Instant) (tale : Tale)
    (result : Answer Failure Response) (c : Call) (n : Nat) (exchanged last : Tale)
    (answer : Answer Failure Response) : Prop where
  numbered : c.id = id
  exchanges : client.Exchanges c n exchanged
  ends : client.Ends c cancel n last answer
  exchanged_subset : exchanged ⊆ tale
  last_subset : last ⊆ tale
  sendings : tale.sendings = exchanged.sendings ++ last.sendings
  returned : ∀ final, result = .ok final →
    ∃ response, answer = .ok response ∧ final.plain = response.plain
  failed : ∀ f, answer = .fail f → tale.FailsWith c.request f result

/-- A call that ends, and sends nothing after that, has such parts. -/
theorem Underway.exists_parts {more : Tale} {answer result : Answer Failure Response}
    (h : client.Underway c id request start n tale) (hends : client.Ends c cancel n last answer)
    (hmore : more.sendings = [])
    (hreturned : ∀ final, result = .ok final →
      ∃ response, answer = .ok response ∧ final.plain = response.plain)
    (hfailed : ∀ f, answer = .fail f → (tale ++ last ++ more).FailsWith c.request f result) :
    ∃ c n exchanged last' answer,
      client.Parts id cancel (tale ++ last ++ more) result c n exchanged last' answer := by
  have hid := h.id_eq
  obtain ⟨hannounced, hexchanges⟩ := h
  refine ⟨_, _, _, _, _, hid, hexchanges, hends, fun said hsaid => by simp [hsaid],
    fun said hsaid => by simp [hsaid], ?_, hreturned, hfailed⟩
  simp [hannounced.inStages.sendings_eq_nil (.inl (by decide)), hmore]

/-- A call sends nothing, or comes to a last sending. -/
theorem Chronicle.exists_parts {result : Answer Failure Response}
    (h : client.Chronicle id request start cancel tale result) :
    tale.sendings = [] ∨ ∃ c n exchanged last answer,
      client.Parts id cancel tale result c n exchanged last answer := by
  cases h with
  | unprepared hprepares => exact .inl (hprepares.inStages.sendings_eq_nil (.inl (by decide)))
  | barred hprepares hpaces =>
    exact .inl ((hprepares.inStages_paces hpaces).sendings_eq_nil (.inl (by decide)))
  | canceled hadmitted => exact .inl (hadmitted.inStages.sendings_eq_nil (.inl (by decide)))
  | vetoed hadmitted hwills =>
    exact .inl ((hadmitted.inStages_wills hwills).sendings_eq_nil (.inl (by decide)))
  | crashed h hends =>
    refine .inr ?_
    rw [← List.append_nil (_ ++ _)]
    exact h.exists_parts hends rfl (fun _ hfinal => by cases hfinal) fun _ hfails => by cases hfails
  | failed h hends hfails =>
    refine .inr (h.exists_parts hends ?_ (fun _ hfinal => by cases hfinal) fun g hg => ?_)
    · exact (Fails.inStages hfails _).sendings_eq_nil (.inr (by decide))
    · cases hg
      exact .inl rfl
  | @failedTwice _ _ _ _ f t words crash h hends hfails =>
    refine .inr (h.exists_parts hends ?_ (fun _ hfinal => by cases hfinal) fun g hg => ?_)
    · exact (Fails.inStages hfails _).sendings_eq_nil (.inr (by decide))
    · cases hg
      obtain ⟨i, hi⟩ := Fails.exists_crash hfails
      exact .inr ⟨t, i, crash, by simp [spoken, hi], rfl⟩
  | concluded h hends hconcludes =>
    refine .inr (h.exists_parts hends ?_ (fun final hfinal => ?_) fun _ hfails => by cases hfails)
    · exact (hconcludes.inStages _).sendings_eq_nil (.inr (by decide))
    · cases hconcludes with
      | unread => cases hfinal
      | @told shown words answer hshown hwords =>
        rcases answer with stop | ⟨⟩
        · cases hfinal
        · cases hfinal
          exact ⟨_, rfl, plain_of_shown hshown⟩

/-! ## Responses that mean success -/

section Success

variable {result answer : Answer Failure Response} {exchanged : Tale} {epoch : Int} {k : Nat}
  {t : Instant} {d : Delivery} {response : Response}

/-- A response that means success and is not the last has asked for a retry. -/
theorem Parts.asked_of_lt (h : client.Parts id cancel tale result c n exchanged last answer)
    (hlimiter : client.limiter.isSome) (hheeded : q.Heeded epoch tale)
    (hk : tale.sendings[k]? = some (t, d)) (hd : d.result = .ok response)
    (hsuccess : Status.isSuccess response.status) (hkn : k < n) :
    q.retryOf? ⟨t.wake d.after, epoch⟩ response.headers ≠ none ∧ k < maxRetries ∧
      (cancel = none → k + 1 < tale.sendings.length) := by
  obtain ⟨hlength, hn, hreplies⟩ := h.exchanges.exists_replies
  rw [h.sendings, List.getElem?_append_left (hlength ▸ hkn)] at hk
  obtain ⟨more, reply, hmore, hreply, hsent, hnot⟩ := hreplies _ (List.mem_of_getElem? hk)
  have hfinal_iff := hreply.final_iff hlimiter (hheeded.mono fun _ h' => h.exchanged_subset
    (hmore h')) hsent hd hsuccess
  refine ⟨fun hasked => hnot (hfinal_iff.2 hasked), Nat.lt_of_lt_of_le hkn hn, fun hcancel => ?_⟩
  subst hcancel
  have hlast := h.ends.length_sendings
  rw [h.sendings, List.length_append, hlength]
  omega

/-- The last sending of a call decides on its answer, unless the call is canceled. -/
theorem Parts.last_of_le (h : client.Parts id cancel tale result c n exchanged last answer)
    (hk : tale.sendings[k]? = some (t, d)) (hkn : n ≤ k) :
    k = n ∧ tale.sendings.length = k + 1 ∧ last.sendings = [(t, d)] ∧
      (cancel.isSome ∧ answer = .fail .canceled ∨
        ∃ reply, client.Replies c last reply ∧ (client.Final reply ∨ n = maxRetries) ∧
          answer = verdict c reply) := by
  obtain ⟨hlength, -, -⟩ := h.exchanges.exists_replies
  rw [h.sendings, List.getElem?_append_right (hlength ▸ hkn), hlength] at hk
  obtain ⟨hzero, hsent, hanswer⟩ := h.ends.eq_of_getElem? hk
  refine ⟨by omega, ?_, hsent, hanswer⟩
  rw [h.sendings, List.length_append, hlength, hsent, List.length_singleton]
  omega

/-- What becomes of a response that means success : if it asks for no retry it is the last, and a
call that has an answer has this one. If it asks in vain, the call fails with the refusal. -/
theorem Chronicle.last_of_success
    (h : client.Chronicle id request start cancel tale result) (hlimiter : client.limiter.isSome)
    (hheeded : q.Heeded epoch tale) (hk : tale.sendings[k]? = some (t, d))
    (hd : d.result = .ok response) (hsuccess : Status.isSuccess response.status) :
    let asked := q.retryOf? ⟨t.wake d.after, epoch⟩ response.headers
    (asked = none → tale.sendings.length = k + 1 ∧
      ∀ final, result = .ok final → final.plain = response.plain) ∧
    (cancel = none → (k + 1 < tale.sendings.length ↔ asked.isSome ∧ k < maxRetries)) ∧
    (cancel = none → ∀ after, asked = some after → k = maxRetries →
      ∃ sent, (t, .sends sent d) ∈ tale ∧ tale.FailsWith sent
        (.rateLimit id sent.method sent.url.print (.retry (q.cap (t.wake d.after) after)))
        result) := by
  intro asked
  rcases h.exists_parts with hnone | ⟨c, n, exchanged, last, answer, hparts⟩
  · simp [hnone] at hk
  rcases Nat.lt_or_ge k n with hkn | hkn
  · obtain ⟨hasked, hleft, hagain⟩ := hparts.asked_of_lt hlimiter hheeded hk hd hsuccess hkn
    exact ⟨fun hnone => absurd hnone hasked,
      fun hcancel => iff_of_true (hagain hcancel) ⟨Option.isSome_iff_ne_none.2 hasked, hleft⟩,
      fun _ _ _ hspent => absurd hspent (Nat.ne_of_lt hleft)⟩
  · obtain ⟨rfl, hlength, hsent, hanswer⟩ := hparts.last_of_le hk hkn
    have hheeded' : q.Heeded epoch last := hheeded.mono hparts.last_subset
    refine ⟨fun hasked => ⟨hlength, fun final hf => ?_⟩,
      fun hcancel => iff_of_false (by omega) ?_, fun hcancel after hasked _ => ?_⟩
    · obtain ⟨response', rfl, hplain⟩ := hparts.returned final hf
      obtain ⟨t', d', hsent', hd'⟩ := hparts.ends.sendings_of_ok
      cases hsent.symm.trans hsent'
      cases hd.symm.trans hd'
      exact hplain
    · rintro ⟨hasked, hleft⟩
      rcases hanswer with ⟨hcanceled, -⟩ | ⟨reply, hreply, hfinal | hspent, -⟩
      · simp [hcancel] at hcanceled
      · have hnone : asked = none :=
          (hreply.final_iff hlimiter hheeded' hsent hd hsuccess).1 hfinal
        simp [hnone] at hasked
      · omega
    · rcases hanswer with ⟨hcanceled, -⟩ | ⟨reply, hreply, -, hverdict⟩
      · simp [hcancel] at hcanceled
      · obtain ⟨hsends, hrefused⟩ :=
          hreply.verdict_eq hlimiter hheeded' hsent hd hsuccess hasked
        have hfailed := hparts.failed _ (hverdict.trans hrefused)
        rw [Call.refused, hparts.numbered] at hfailed
        exact ⟨c.request, hparts.last_subset hsends, hfailed⟩

end Success

/-! ## Runs -/

/-- A call that a quota paces sends its request again after a response that means success only if
the response itself asks for that. Otherwise this response is the last that comes, and a call that
has an answer has this one. A call that is not canceled does send again where it is asked to, as
long as sendings are left, and fails with the limiter's refusal after that. -/
theorem resent_iff (client : Client σ) (q : Quota) (window : σ → Window) (keep : Window → σ → σ)
    (id : Nat) (request : Request) (cancel : Option Instant) (s : Scene σ) :
    let paced := client.withLimiter (q.limiter window keep)
    let ran := paced.run id request cancel s
    ∃ tale result, ran.1 = some result ∧ s.Recounts paced tale ran.2 ∧
      ran.2.log.sends.length = s.log.sends.length + tale.sendings.length ∧
      ∀ k t d response, tale.sendings[k]? = some (t, d) → d.result = .ok response →
        Status.isSuccess response.status →
        let asked := q.retryOf? ⟨t.wake d.after, s.clock.epoch⟩ response.headers
        (asked = none → tale.sendings.length = k + 1 ∧
          ∀ final, result = .ok final → final.plain = response.plain) ∧
        (cancel = none → (k + 1 < tale.sendings.length ↔ asked.isSome ∧ k < maxRetries)) ∧
        (cancel = none → ∀ after, asked = some after → k = maxRetries →
          ∃ sent, (t, .sends sent d) ∈ tale ∧ tale.FailsWith sent
            (.rateLimit id sent.method sent.url.print (.retry (q.cap (t.wake d.after) after)))
            result) := by
  intro paced ran
  obtain ⟨tale, result, hresult, hrecounts, hchronicle⟩ :=
    paced.exists_chronicle id request cancel s
  exact ⟨tale, result, hresult, hrecounts, Tale.length_sends hrecounts,
    fun k t d response hk hd hsuccess =>
      hchronicle.last_of_success rfl (heeded rfl hrecounts) hk hd hsuccess⟩

/-- A response that means success, and asks for a retry at once. -/
def insistent : Response :=
  ⟨200, none, ⟨[⟨Header.retryAfter, [{ bytes := [48] }]⟩]⟩, some [], some 0⟩

/-- A client without a limiter of its own, which gets nothing but such responses. -/
def pressed : Client Window where
  base := none
  transport := fun _ _ w => (⟨0, .ok insistent⟩, w)
  retryStatuses := []
  backoff := 0
  headers := {}
  contentType := ""
  tracing := {}

/-- The request is sent four times. The fourth response asks in vain, and the call fails. -/
theorem resent_iff_pressed :
    let q : Quota := {}
    let s : Scene Window := { clock := ⟨0, 0⟩, world := ⟨60, 60, 60 * second, none⟩ }
    ∃ (tale : Tale) (result : Answer Failure Response) (t : Instant) (d : Delivery)
      (sent : Outgoing),
      ((pressed.withLimiter (q.limiter (fun window => window) fun window _ => window)).run 7
        { method := "POST", target := "mem:a" } none s).1 = some result ∧
      tale.sendings.length = 4 ∧ tale.sendings[3]? = some (t, d) ∧ d.result = .ok insistent ∧
      Status.isSuccess insistent.status ∧ (t, .sends sent d) ∈ tale ∧
      tale.FailsWith sent (.rateLimit 7 sent.method sent.url.print (.retry 0)) result := by
  intro q s
  obtain ⟨tale, result, hresult, hrecounts, -, hall⟩ := resent_iff pressed q (fun window => window)
    (fun window _ => window) 7 { method := "POST", target := "mem:a" } none s
  have htimes : tale.sendings.map Prod.fst = [0, 0, 0, 0] := by
    have hsends : ((pressed.withLimiter (q.limiter (fun window => window) fun window _ =>
        window)).run 7 { method := "POST", target := "mem:a" } none s).2.log.sends.map Prod.fst =
          [0, 0, 0, 0] := by decide +kernel
    rw [Tale.times_sends hrecounts] at hsends
    exact hsends
  have hlength : tale.sendings.length = 4 := by simpa using congrArg List.length htimes
  obtain ⟨⟨t, d⟩, hlast⟩ : ∃ sending, tale.sendings[3]? = some sending :=
    ⟨_, List.getElem?_eq_getElem (by omega)⟩
  obtain rfl : t = 0 := by
    have ht := congrArg (·[3]?) htimes
    simpa [hlast] using ht
  obtain rfl : d = ⟨0, .ok insistent⟩ := by
    obtain ⟨sent, hsent⟩ := Tale.exists_sends (List.mem_of_getElem? hlast)
    obtain ⟨w, w', hsays⟩ := exists_says hrecounts hsent
    exact (Prod.mk.inj hsays).1.symm
  obtain ⟨sent, hsent, hfails⟩ := (hall 3 0 _ insistent hlast rfl rfl).2.2 rfl 0 (by decide) rfl
  exact ⟨tale, result, 0, _, sent, hresult, hlength, hlast, rfl, rfl, hsent, hfails⟩

/-- A client whose limiter is a quota in the world. All responses mean success, and ask for a
retry at once. -/
def eager : Client Rehearsal.World where
  base := none
  limiter := some (Rehearsal.World.limiter 0)
  transport := fun _ _ w =>
    (⟨0, .ok ⟨200, none, ⟨[⟨Header.retryAfter, [{ bytes := [48] }]⟩]⟩, some [], some 0⟩⟩, w)
  retryStatuses := []
  backoff := 0
  headers := {}
  contentType := ""
  tracing := {}

/-- Every response to a request means success, and the request is sent four times. -/
theorem eager_resends :
    let s : Scene Rehearsal.World :=
      { clock := ⟨0, 0⟩, world := { pacers := [.quota {} ⟨60, 60, 60 * second, none⟩] } }
    let ran := eager.run 0 { method := "POST", target := "mem:a" } none s
    ran.2.log.sends.map (·.2.method) = ["POST", "POST", "POST", "POST"] ∧
      ∀ now request w, ∃ response, (eager.transport now request w).1.result = .ok response ∧
        Status.isSuccess response.status := by
  intro s ran
  exact ⟨by decide +kernel, fun now request w => ⟨_, rfl, rfl⟩⟩

end Client

end Courier
