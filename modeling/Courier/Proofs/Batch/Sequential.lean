import Courier.Proofs.Batch.Collection
import Courier.Proofs.Batch.Liveness
import Courier.Proofs.Batch.Strays

/-!
# A batch with one worker is a loop

Whatever the interleaving, a batch with one worker hands out its responses in the order of the plain
loop, and gives back what the loop gives back (`Session.solo_refines`). It sends what the loop
sends, in the same order, and after that no more than a stray does. `exists_stray` is a run with a
stray.

How late the pieces of the loop are is up to the interleaving. If time passes only while nobody can
do anything (`Session.Prompt`), they are never late, and the loop is the recursion over the list
that runs each call to its end.
-/

namespace Courier.Batch.Session

open Loop (Stage)

variable {σ : Type} {p : Plan σ} {requests : List Request} {On : Instant → Instant → Prop}
  {scene : Scene σ} {s s' s₀ : State σ} {l : Loop σ} {e : Deed} {h : List Deed}

/-! ## What happens after a failure -/

/-- A job has failed for good. -/
def Failed (s : State σ) : Prop :=
  s.failed ∨ ∃ j ∈ s.jobs, ∃ f, j.work = .fails f

/-- When a job has failed for good, the loop is over. -/
theorem Solo.doomed (hs : Solo p requests On scene h s l) (hfailed : Failed s) :
    ∃ f, Doomed f s := by
  obtain ⟨rest, -, hphase⟩ := hs.phase
  generalize l.stage = stage at hphase
  have hjob (hjobs : s.jobs = []) (hfirst : s.failed = false) : ∃ f, Doomed f s := by
    simp [Failed, hjobs, hfirst] at hfailed
  cases hphase with
  | idle hjobs _ _ hclear | holds hjobs _ _ _ hclear | exhausted hjobs _ _ hclear =>
    exact hjob hjobs hclear.failed
  | done hjobs _ hfirst => exact hjob hjobs hfirst
  | busy hjobs _ hclear hdoing =>
    obtain hfailed | ⟨k, hk, f, hwork⟩ := hfailed
    · simp [hclear.failed] at hfailed
    · rw [hjobs, List.mem_singleton] at hk
      rw [← hk, hwork] at hdoing
      cases hdoing
  | doomed hdoomed => exact ⟨_, hdoomed⟩

/-- A job that has failed for good sends nothing. -/
theorem Doomed.sends {f : Failure} {j : Job} (hd : Doomed f s) (hj : s.job? j.index = some j)
    (hstep : Batch.step p s j = some s') : s'.scene.log.sends = s.scene.log.sends := by
  obtain ⟨hdoomed, -⟩ := DoomedStep.of_step hd hj hstep
  cases hdoomed with
  | cancels scene hscene => exact hscene.1.sends.symm
  | reports | stops | leaves | ends => rfl

/-- After a job has failed for good, the batch sends nothing any more, unless a stray is
accepted. -/
theorem Doomed.sends_of_course {f : Failure} {after : List Deed} (hd : Doomed f s)
    (hproducer : p.producer = .ofList requests) (hworkers : p.batch.workers = 1)
    (hcourse : Course p s after s') (haccepts : accepted after = []) :
    s'.scene.log.sends = s.scene.log.sends := by
  have hinvariant : accepted after = [] →
      (Doomed f s' ∨ s'.canceled) ∧ s'.scene.log.sends = s.scene.log.sends := by
    refine hcourse.invariant (I := fun h s' => accepted h = [] →
      (Doomed f s' ∨ s'.canceled) ∧ s'.scene.log.sends = s.scene.log.sends)
        (fun _ => ⟨.inl hd, rfl⟩) ?_
    intro h e s₁ s₂ hbefore hmove haccepts
    rw [accepted_append, List.append_eq_nil_iff] at haccepts
    obtain ⟨hstate, hsends⟩ := hbefore haccepts.1
    cases hcanceled : s₁.canceled with
    | true =>
      -- A canceled batch sends nothing anyway.
      refine ⟨.inr ((Stays.move hmove).canceled hcanceled), ?_⟩
      exact (Session.sends_of_course (Path.nil.snoc hmove) hcanceled).trans hsends
    | false =>
      have hdoomed : Doomed f s₁ := hstate.resolve_right (by simp [hcanceled])
      cases hmove with
      | produces hstep =>
        have hadds (i : Nat) (request : Request) (hproduction : s₁.production = .adds i request) :
            False := by
          simp [doneByProduction, hproduction, accepted] at haccepts
        exact ⟨.inl (hdoomed.produce hproducer hworkers hcanceled hadds hstep).1,
          (sends_produce hstep).trans hsends⟩
      | advances hj hstep =>
        exact ⟨.inl (hdoomed.step hj hstep), (hdoomed.sends hj hstep).trans hsends⟩
      | reads | dismisses | leaves | passes => exact ⟨.inl (hdoomed.congr rfl rfl rfl), hsends⟩
      | cancels => exact ⟨.inr rfl, hsends⟩
  exact (hinvariant haccepts).2

/-! ## The batch and the loop over a whole session -/

/-- After a history, the batch goes along with the loop, or it has gone on with a stray. -/
inductive Follows (p : Plan σ) (requests : List Request) (On : Instant → Instant → Prop)
    (scene : Scene σ) (h : List Deed) (s : State σ) (l : Loop σ) : Prop where
  | solo (hs : Solo p requests On scene h s l)
  | strayed (hs : Strayed p requests On scene h s l)

namespace Follows

theorem reaches (hf : Follows p requests On scene h s l) : Loop.Reaches p requests On scene l := by
  cases hf with
  | solo hs | strayed hs => exact hs.reaches

/-- The batch has sent what the loop has. -/
theorem sends (hf : Follows p requests On scene h s l) :
    l.scene.log.sends <+: s.scene.log.sends ∧
      (strays h = [] → l.scene.log.sends = s.scene.log.sends) := by
  cases hf with
  | solo hs => exact ⟨hs.lags.sends ▸ List.prefix_refl _, fun _ => hs.lags.sends⟩
  | strayed hs => exact ⟨hs.sends, fun hnone => absurd hnone hs.strays⟩

theorem taken_prefix (hf : Follows p requests On scene h s l) : taken h <+: l.outcomes := by
  cases hf with
  | solo hs =>
    obtain ⟨rest, hrest, -⟩ := hs.phase
    exact hrest ▸ List.prefix_append _ _
  | strayed hs => exact hs.taken

/-- The reader was told of the end of the loop. -/
theorem told {failure : Option Failure} (hf : Follows p requests On scene h s l)
    (hended : ending? h = some failure) : l.stage = .over failure := by
  cases hf with
  | solo hs => exact (hs.told failure hended).1
  | strayed hs =>
    obtain ⟨f, hstage, ⟨hnone, -⟩ | htold⟩ := hs.told
    · cases hnone.symm.trans hended
    · exact hstage.trans (congrArg _ (Option.some.inj (htold.symm.trans hended)))

/-- The batch follows the loop in whatever somebody does, other than to cancel the batch. -/
theorem move (hf : Follows p requests On scene h s l) (hr : Reasons h s) (hrefl : ∀ t, On t t)
    (hproducer : p.producer = .ofList requests) (hworkers : p.batch.workers = 1)
    (hending : Ending h s) (hmove : Move p s e s') (hreader : e.Collects h)
    (hcancels : e ≠ .cancels)
    (hpasses : Solo p requests On scene h s l → e = .passes →
      s.scene.clock.now ≤ s'.scene.clock.now → Timely On l s'.scene.clock.now) :
    ∃ l', Follows p requests On scene (h ++ [e]) s' l' := by
  cases hf with
  | solo hs =>
    by_cases hstray : ∃ f i, l.stage = .over (some f) ∧ e = .accepts i
    · obtain ⟨f, i, hstage, rfl⟩ := hstray
      exact ⟨l, .strayed (hs.stray hr hstage hmove)⟩
    · have haccepts (f : Failure) (hstage : l.stage = .over (some f)) (i : Nat) :
          e ≠ .accepts i := fun he => hstray ⟨f, i, hstage, he⟩
      obtain ⟨l', hs'⟩ := hs.move hrefl hproducer hworkers hending hmove hreader hcancels haccepts
        (hpasses hs)
      exact ⟨l', .solo hs'⟩
  | strayed hs => exact ⟨l, .strayed (hs.move hmove hreader)⟩

end Follows

/-- The batch follows a loop that may be late. -/
theorem Collecting.exists_follows (hlaunch : p.launch scene false = .ok s₀)
    (hproducer : p.producer = .ofList requests) (hworkers : p.batch.workers = 1)
    (hrun : Collecting p s₀ h s) (hcancels : .cancels ∉ h) :
    ∃ l, Follows p requests (· ≤ ·) scene h s l := by
  induction hrun with
  | start =>
    obtain rfl := eq_start_of_launch hlaunch
    exact ⟨_, .solo (Solo.start Int.le_refl)⟩
  | @next h e s s' hrun hmove hreader ih =>
    rw [List.mem_append, not_or, List.mem_singleton] at hcancels
    obtain ⟨l, hf⟩ := ih hcancels.1
    refine hf.move (.of_collecting hlaunch hproducer hrun hcancels.1) Int.le_refl hproducer hworkers
      (.of_course hlaunch hrun.course) hmove hreader (Ne.symm hcancels.2) fun hs _ hle => ?_
    have hnow : l.scene.clock.now ≤ s'.scene.clock.now := Int.le_trans hs.lags.now hle
    unfold Timely
    split
    · exact hnow
    · exact hnow
    · exact id
    · trivial

/-- Nobody can do anything before an instant. -/
structure Idles (p : Plan σ) (s : State σ) (t : Instant) : Prop where
  production : produce p s = none
  jobs : ∀ j ∈ s.jobs, step p s j = none ∧ ∀ wake, j.wake? = some wake → t ≤ wake
  reader : s.outlet.closed = false → s.outlet.next = none

/-- The courses of a session whose reader collects the results, and in which time passes only while
nobody can do anything. -/
inductive Prompt (p : Plan σ) (s₀ : State σ) : List Deed → State σ → Prop where
  | start : Prompt p s₀ [] s₀
  | next {h : List Deed} {e : Deed} {s s' : State σ} (hrun : Prompt p s₀ h s)
      (hmove : Move p s e s') (hreader : e.Collects h)
      (hidles : e = .passes → Idles p s s'.scene.clock.now) : Prompt p s₀ (h ++ [e]) s'

theorem Prompt.collecting (hrun : Prompt p s₀ h s) : Collecting p s₀ h s := by
  induction hrun with
  | start => exact .start
  | next _ hmove hreader _ ih => exact ih.next hmove hreader

/-- While nobody can do anything, the loop waits for its call. -/
theorem Solo.timely_of_idles {t : Instant} (hs : Solo p requests (· = ·) scene h s l)
    (hworkers : p.batch.workers = 1) (hending : Ending h s) (hcapacity : 0 < s.outlet.capacity)
    (hidles : Idles p s t) : Timely (· = ·) l t := by
  obtain ⟨rest, -, hphase⟩ := hs.phase
  have hproduction (hjobs : s.jobs = []) (hproduction : s.production ≠ .over) : False := by
    have hsome := isSome_produce hjobs (Nat.le_of_eq hworkers.symm) hproduction
    simp [hidles.production] at hsome
  have hreader (hclear : Clear s) : s.outlet.buffer = [] ∧ s.outlet.writers ≠ 0 := by
    obtain ⟨hopen, hclosed⟩ := Bool.or_eq_false_iff.1 hclear.outlet
    have hnext := hidles.reader hclosed
    simp only [Outlet.next, hopen, Bool.false_eq_true, if_false] at hnext
    split at hnext
    · cases hnext
    · next hbuffer =>
      split at hnext
      · cases hnext
      · next hwriters => exact ⟨hbuffer, hwriters⟩
  unfold Timely
  generalize l.stage = stage at hphase
  cases hphase with
  | idle hjobs hahead =>
    refine (hproduction hjobs fun hover => ?_).elim
    rw [hover] at hahead
    cases hahead
  | holds hjobs _ hadds => exact (hproduction hjobs (by simp [hadds])).elim
  | exhausted hjobs hover _ hclear =>
    have hwriters := hending.writers
    rw [hjobs, hover] at hwriters
    exact absurd hwriters (hreader hclear).2
  | @busy _ j _ _ hjobs _ hclear hdoing =>
    obtain ⟨hstuck, hwake⟩ := hidles.jobs j (by simp [hjobs])
    have hroom : s.outlet.buffer.length < s.outlet.capacity := by
      rwa [(hreader hclear).1]
    generalize hwork : j.work = work at hdoing
    cases hdoing with
    | calls =>
      intro hle
      exact Int.le_antisymm hle (hwake _ (by simp [Job.wake?, hwork]))
    | begins | answers | leaves => simp [Batch.step, hwork] at hstuck
    | delivers => simp [Batch.step, hwork, Outlet.write, hclear.outlet, hroom] at hstuck
    | handles => cases hhandler : p.handler <;> simp [Batch.step, hwork, hhandler] at hstuck
  | doomed | done => trivial

/-- The batch follows the loop without lateness, if time passes only while nobody can do
anything. -/
theorem Prompt.exists_follows (hlaunch : p.launch scene false = .ok s₀)
    (hproducer : p.producer = .ofList requests) (hworkers : p.batch.workers = 1)
    (hrun : Prompt p s₀ h s) (hcancels : .cancels ∉ h) :
    ∃ l, Follows p requests (· = ·) scene h s l := by
  induction hrun with
  | start =>
    obtain rfl := eq_start_of_launch hlaunch
    exact ⟨_, .solo (Solo.start fun _ => rfl)⟩
  | @next h e s s' hrun hmove hreader hidles ih =>
    rw [List.mem_append, not_or, List.mem_singleton] at hcancels
    obtain ⟨l, hf⟩ := ih hcancels.1
    have hcourse := hrun.collecting.course
    have hending := Ending.of_course hlaunch hcourse
    have hreasons := Reasons.of_collecting hlaunch hproducer hrun.collecting hcancels.1
    have hcapacity : 0 < s.outlet.capacity := by
      rw [(Flow.of_course hlaunch hcourse).capacity]
      exact Nat.lt_of_lt_of_le Nat.zero_lt_one (Nat.le_max_right _ _)
    exact hf.move hreasons (fun _ => rfl) hproducer hworkers hending hmove hreader
      (Ne.symm hcancels.2) fun hs hpasses _ =>
        hs.timely_of_idles hworkers hending hcapacity (hidles hpasses)

/-! ## What is handed out -/

/-- The results are handed out in the order of their requests. -/
theorem Follows.pairwise_taken (hf : Follows p requests On scene h s l) :
    (taken h).Pairwise (·.index < ·.index) :=
  hf.reaches.ordered.increasing.sublist hf.taken_prefix.sublist

/-- Results that are in order are collected as they are. -/
theorem collected_of_pairwise {results : List Outcome}
    (h : results.Pairwise (·.index < ·.index)) :
    collected (results.map Except.ok) = .ok (results.map Outcome.response) := by
  have hsorted : results.Pairwise fun a b => decide (a.index ≤ b.index) = true :=
    h.imp fun hab => decide_eq_true (Nat.le_of_lt hab)
  simp only [collected, mapM_id_ok, Except.map, List.mergeSort_of_pairwise hsorted]

/-- When the reader was told that there is no more, it has taken all responses of the loop. -/
theorem Follows.taken_eq (hf : Follows p requests On scene h s l) (hended : ending? h = some none) :
    taken h = l.outcomes := by
  have hstage := hf.told hended
  cases hf with
  | solo hs =>
    obtain ⟨rest, hrest, hphase⟩ := hs.phase
    rw [hstage] at hphase
    obtain rfl : rest = [] := by
      generalize hover : Stage.over none = stage at hphase
      cases hphase with
      | busy _ _ _ hdoing => exact absurd hover.symm hdoing.stage_ne_over
      | idle | holds | exhausted | doomed => cases hover
      | done => rfl
    rw [hrest, List.append_nil]
  | strayed hs =>
    obtain ⟨f, hover, -⟩ := hs.told
    cases hstage.symm.trans hover

/-- Once the results have ended, the loop gives back what was collected. -/
theorem Follows.result?_eq (hf : Follows p requests On scene h s l) (hreturned : returned h) :
    result? h = l.result? := by
  obtain ⟨failure, hended⟩ := exists_ending hreturned
  have hstage := hf.told hended
  cases failure with
  | none =>
    have hcollected := collected_of_pairwise hf.pairwise_taken
    rw [hf.taken_eq hended] at hcollected
    simp only [result?, hended, Loop.result?, hstage, Option.map_some, Option.toList_none,
      List.map_nil, List.append_nil, hf.taken_eq hended, hcollected]
  | some f =>
    simp only [result?, hended, Loop.result?, hstage, Option.map_some, Option.toList_some,
      List.map_cons, List.map_nil, collected_error]

/-! ## One worker -/

/-- A batch with one worker and a list of requests is the plain loop over the list, in every
interleaving without cancellation. Its results come in the order of the requests, and once they have
ended, it gives back what the loop gives back. It sends what the loop sends, and nothing else but
for a stray, of which there is one at most, for the request after the one that failed : when a job
has failed for good and no stray is accepted, nothing is sent any more, whatever happens then. If
time passes only while nobody can do anything, the loop is the recursion that runs each call to its
end. And the results do end : until then somebody can take a step, and the list bounds how many
there are. -/
theorem solo_refines (hlaunch : p.launch scene false = .ok s₀) (hworkers : p.batch.workers = 1)
    (hproducer : p.producer = .ofList requests) (hrun : Collecting p s₀ h s)
    (hcancels : .cancels ∉ h) :
    (taken h).Pairwise (·.index < ·.index) ∧
    (∃ l, Loop.Reaches p requests (· ≤ ·) scene l ∧ (returned h → result? h = l.result?) ∧
      l.scene.log.sends <+: s.scene.log.sends ∧
      (strays h = [] → l.scene.log.sends = s.scene.log.sends)) ∧
    (strays h = [] ∨ ∃ i f, .reports i f ∈ h ∧ strays h = [i + 1]) ∧
    (Failed s → strays h = [] → ∀ after s', Course p s after s' → accepted after = [] →
      s'.scene.log.sends = s.scene.log.sends) ∧
    (Prompt p s₀ h s → returned h →
      result? h = (p.loop requests 0 [] scene).result? ∧
      (p.loop requests 0 [] scene).scene.log.sends <+: s.scene.log.sends ∧
      (strays h = [] → (p.loop requests 0 [] scene).scene.log.sends = s.scene.log.sends)) ∧
    (returned h = false →
      ∃ t, s.scene.clock.now ≤ t ∧ ∃ e s', Move p { s with scene := s.scene.later t } e s' ∧
        e.isStep ∧ e.Collects h) ∧
    steps h ≤ stepsPerJob * requests.length + 5 := by
  obtain ⟨l, hf⟩ := hrun.exists_follows hlaunch hproducer hworkers hcancels
  refine ⟨hf.pairwise_taken, ⟨l, hf.reaches, hf.result?_eq, hf.sends⟩,
    strays_eq hlaunch hworkers hrun.course, ?_, ?_,
    hrun.exists_move hlaunch (Nat.le_of_eq hworkers.symm), ?_⟩
  · intro hfailed hnone after s' hcourse haccepts
    cases hf with
    | solo hs =>
      obtain ⟨f, hdoomed⟩ := hs.doomed hfailed
      exact hdoomed.sends_of_course hproducer hworkers hcourse haccepts
    | strayed hs => exact absurd hnone hs.strays
  · intro hprompt hreturned
    obtain ⟨l, hf⟩ := hprompt.exists_follows hlaunch hproducer hworkers hcancels
    obtain ⟨failure, hended⟩ := exists_ending hreturned
    have hloop := hf.reaches.eq_loop (hf.told hended)
    exact hloop ▸ ⟨hf.result?_eq hreturned, hf.sends⟩
  · have hends (world : σ) (request : Request) :
        (p.producer requests.length world).1 ≠ .ok (some request) := by
      simp [hproducer, Producer.ofList]
    have hyielded := length_yielded_le hlaunch hends hrun.course
    have hleft := (hrun.steps_add_stepsLeft_le hlaunch hyielded).2
    omega

/-- Somebody who does not make time pass does something while the reader reads on. -/
theorem Prompt.play : ∀ (choices : List Choice) {h h' : List Deed} {s s' : State σ},
    Prompt p s₀ h s →
    (choices.all fun | .produces | .advances _ | .reads => true | _ => false) →
    Session.play p choices s = some (h', s') → returned (h ++ h') = false →
    Prompt p s₀ (h ++ h') s' ∧ (.cancels ∉ h → .cancels ∉ h ++ h')
  | [], h, _, s, _, hrun, _, hplay, _ => by
    cases hplay
    exact ⟨(List.append_nil h).symm ▸ hrun, fun hcancels => by simpa using hcancels⟩
  | choice :: later, h, _, s, _, hrun, hchoices, hplay, hreturned => by
    obtain ⟨hchoice, hlater⟩ := Bool.and_eq_true_iff.1 hchoices
    obtain ⟨⟨e, s₁⟩, hmove?, hplay⟩ := Option.bind_eq_some_iff.1 hplay
    obtain ⟨⟨h', s₂⟩, hplay, heq⟩ := Option.map_eq_some_iff.1 hplay
    cases heq
    have hrunning : returned h = false := by
      rw [returned, List.any_append, Bool.or_eq_false_iff] at hreturned
      exact hreturned.1
    have hmove := Move.of_move? hmove?
    obtain ⟨hreader, hpasses, hcancels⟩ : e.Collects h ∧ e ≠ .passes ∧ e ≠ .cancels := by
      have hcomes := Choice.comes_of_move? hmove?
      cases choice with
      | produces | advances =>
        refine ⟨Deed.Works.collects hcomes h, ?_, ?_⟩ <;>
        · rintro rfl
          exact hcomes
      | reads =>
        obtain ⟨answer, rfl⟩ := hcomes
        exact ⟨hrunning, (fun heq => by cases heq), fun heq => by cases heq⟩
      | dismisses | leaves | cancels | passes => cases hchoice
    rw [List.append_cons] at hreturned ⊢
    have hnext := hrun.next hmove hreader fun hpass => absurd hpass hpasses
    obtain ⟨hrun', hcancels'⟩ := hnext.play later hlater hplay hreturned
    exact ⟨hrun', fun h => hcancels' (by simp [h, hcancels.symm])⟩

/-- The reader is told why the outlet was canceled, which ends the results. -/
theorem Prompt.exists_end (hrun : Prompt p s₀ h s) (hreturned : returned h = false)
    (hclosed : s.outlet.closed = false) (hshut : s.outlet.canceled) (hcancels : .cancels ∉ h) :
    ∃ h' s', Prompt p s₀ h' s' ∧ .cancels ∉ h' ∧ returned h' ∧ taken h' = taken h ∧
      strays h' = strays h ∧ s'.scene = s.scene ∧ s'.failed = s.failed := by
  have hnext := Move.reads (p := p) hclosed (by rw [Outlet.next, if_pos hshut])
  exact ⟨_, _, hrun.next hnext hreturned (by simp), by simpa using hcancels,
    by simp [returned, Deed.isEnd], by simp [taken], strays_concat rfl, rfl, rfl⟩

/-- Four requests. -/
def four : List Request :=
  ["mem:a", "mem:b", "mem:c", "mem:d"].map fun target => { target }

/-- A batch with one worker. Every other send fails, and its handler saves the first of them. -/
def single : Plan Nat where
  batch := {
    client := {
      base := none
      transport := fun _ _ n =>
        (⟨0, if n % 2 = 0 then .error false else .ok ⟨200, none, {}, none, none⟩⟩, n + 1)
      retryStatuses := []
      backoff := 0
      headers := {}
      contentType := ""
      tracing := {} }
    workers := 1
    handler := some fun f n =>
      (if n = 1 then .ok (some ⟨201, none, {}, none, none⟩) else .error (.error f), n) }
  producer := .ofList four

/-- Three jobs in turn. Production has the next request ready all the time, and waits with it for
the worker. -/
def inTurn : List Choice :=
  List.replicate 9 .produces ++ List.replicate 6 (.advances 0) ++ List.replicate 7 .produces ++
    List.replicate 3 (.advances 1) ++ [.reads, .advances 1, .advances 1, .reads] ++
    List.replicate 7 .produces ++ List.replicate 6 (.advances 2) ++ [.produces, .advances 2]

/-- The first job is saved and the third fails. The fourth request was ready by then, and is not
sent. -/
theorem solo_refines_single :
    let scene : Scene Nat := { clock := ⟨0, 0⟩, world := 0 }
    let loop := single.loop four 0 [] scene
    ∃ s₀ h s, single.launch scene false = .ok s₀ ∧ single.batch.workers = 1 ∧
      Prompt single s₀ h s ∧ .cancels ∉ h ∧ returned h ∧ strays h = [] ∧
      (taken h).map Outcome.index = [0, 1] ∧ (taken h).Pairwise (·.index < ·.index) ∧
      result? h = loop.result? ∧ loop.scene.log.sends = s.scene.log.sends ∧
      s.scene.log.sends.length = 3 ∧ steps h ≤ stepsPerJob * 4 + 5 ∧
      ∀ after s', Course single s after s' → accepted after = [] →
        s'.scene.log.sends = s.scene.log.sends := by
  intro scene loop
  have hlaunch : single.launch scene false = .ok (single.start scene false) := if_pos (by decide)
  have hshown : (play single inTurn (single.start scene false)).map
      (fun (h, s) => (returned h || s.outlet.closed, s.outlet.canceled && s.failed, strays h,
        (taken h).map Outcome.index, s.scene.log.sends.length)) =
          some (false, true, [], [0, 1], 3) := by
    decide +kernel
  obtain ⟨⟨h, s⟩, hplay, heq⟩ := Option.map_eq_some_iff.1 hshown
  simp only [Prod.mk.injEq, Bool.or_eq_false_iff, Bool.and_eq_true] at heq
  obtain ⟨⟨hreturned, hclosed⟩, ⟨hshut, hfailed⟩, hnone, htaken, hsends⟩ := heq
  obtain ⟨hrun, hcancels⟩ := Prompt.start.play inTurn (by decide) hplay hreturned
  obtain ⟨h', s', hprompt, hcancels', hreturned', htaken', hstrays', hscene', hfailed'⟩ :=
    hrun.exists_end hreturned hclosed hshut (hcancels List.not_mem_nil)
  rw [List.nil_append] at htaken' hstrays'
  have hnone' := hstrays'.trans hnone
  obtain ⟨hordered, -, -, hquiet, hloop, -, hsteps⟩ :=
    solo_refines hlaunch rfl rfl hprompt.collecting hcancels'
  obtain ⟨hresult, -, hsame⟩ := hloop hprompt hreturned'
  exact ⟨_, h', s', hlaunch, rfl, hprompt, hcancels', hreturned', hnone', by rw [htaken', htaken],
    hordered, hresult, hsame hnone', by rw [hscene', hsends], hsteps,
    hquiet (.inl (hfailed'.trans hfailed)) hnone'⟩

/-- Three jobs in turn. When production has looked whether the batch is to go on with the fourth
request, the third job fails and leaves. Then the worker is free for the fourth. -/
def overtaken : List Choice :=
  List.replicate 9 .produces ++ List.replicate 6 (.advances 0) ++ List.replicate 7 .produces ++
    List.replicate 3 (.advances 1) ++ [.reads, .advances 1, .advances 1, .reads] ++
    List.replicate 6 .produces ++ List.replicate 7 (.advances 2) ++ [.produces, .produces] ++
    List.replicate 2 (.advances 3)

/-- The third job fails, and the fourth request is sent after that. The results end with the failure
of the loop, which does not send the fourth request. -/
theorem exists_stray :
    let scene : Scene Nat := { clock := ⟨0, 0⟩, world := 0 }
    let loop := single.loop four 0 [] scene
    ∃ s₀ h s, single.launch scene false = .ok s₀ ∧ single.batch.workers = 1 ∧
      Prompt single s₀ h s ∧ .cancels ∉ h ∧ returned h ∧ strays h = [3] ∧
      result? h = loop.result? ∧ loop.scene.log.sends.length = 3 ∧
      s.scene.log.sends.length = 4 := by
  intro scene loop
  have hlaunch : single.launch scene false = .ok (single.start scene false) := if_pos (by decide)
  have hshown : (play single overtaken (single.start scene false)).map
      (fun (h, s) => (returned h || s.outlet.closed, s.outlet.canceled, strays h,
        s.scene.log.sends.length)) = some (false, true, [3], 4) := by
    decide +kernel
  obtain ⟨⟨h, s⟩, hplay, heq⟩ := Option.map_eq_some_iff.1 hshown
  simp only [Prod.mk.injEq, Bool.or_eq_false_iff] at heq
  obtain ⟨⟨hreturned, hclosed⟩, hshut, hone, hsends⟩ := heq
  obtain ⟨hrun, hcancels⟩ := Prompt.start.play overtaken (by decide) hplay hreturned
  obtain ⟨h', s', hprompt, hcancels', hreturned', -, hstrays', hscene', -⟩ :=
    hrun.exists_end hreturned hclosed hshut (hcancels List.not_mem_nil)
  rw [List.nil_append] at hstrays'
  obtain ⟨l, hf⟩ := hprompt.exists_follows hlaunch rfl rfl hcancels'
  obtain ⟨failure, hended⟩ := exists_ending hreturned'
  have hloop : l = loop := hf.reaches.eq_loop (hf.told hended)
  exact ⟨_, h', s', hlaunch, rfl, hprompt, hcancels', hreturned', hstrays'.trans hone,
    hloop ▸ hf.result?_eq hreturned', by decide +kernel, by rw [hscene', hsends]⟩

end Courier.Batch.Session
