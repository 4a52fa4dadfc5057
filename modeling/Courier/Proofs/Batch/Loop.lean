import Courier.Batch
import Courier.Proofs.Call.Cancel
import Mathlib.Logic.Relation

/-!
# The plain loop

A program that needs no batch takes up the requests of a list one after the other. It executes
each with the client, offers a failure to the handler, and stops at the first that the handler
does not save. `Loop.Step` is this program piece by piece, from one wait of a call to the next.
When each piece is run is left to `On`, which says which instants there may be for a piece that
is due at another : it may be late (`· ≤ ·`) or not (`· = ·`).

If no piece is late, all that is left of the program is a recursion over the list that runs each
call to its end (`Plan.loop`), and the pieces come to the same (`Loop.Reaches.eq_loop`).
-/

namespace Courier.Batch

variable {σ : Type}

/-! ## The loop in pieces -/

/-- What comes of a call : its response, or what the handler makes of its failure. The handler may
give a response or drop the request. Otherwise the failure is that of the whole, with the index of
the request. -/
def Plan.judge (p : Plan σ) (index : Nat) (answer : Answer Failure Response) (scene : Scene σ) :
    Except Failure (Option Response) × Scene σ :=
  match answer with
  | .ok response => (.ok (some response), scene)
  | .error (.crash crash) => (.error (.crashed (crash.message.getD "unknown panic")), scene)
  | .error (.error f) =>
    match p.handler with
    | none => (.error (.multiplex index f), scene)
    | some handler =>
      match scene.perform (do Act.record (.handles f); Act.ask id (handler f)) with
      | (.ok response, scene) => (.ok response, scene)
      | (.error (.error g), scene) => (.error (.multiplex index g), scene)
      | (.error (.crash crash), scene) =>
        (.error (.crashed (crash.message.getD "unknown panic")), scene)

/-- Where the loop is. -/
inductive Loop.Stage where
  /-- It takes up the request at an index. -/
  | takes (index : Nat)
  /-- The call of a request waits. -/
  | waits (index : Nat) (call : Call) (wake : Instant) (wait : Call.Wait)
  /-- The call of a request has come to its end. -/
  | judges (index : Nat) (answer : Answer Failure Response)
  /-- There are no more requests, or there was a failure. -/
  | over (failure : Option Failure)

/-- The state of the loop. -/
structure Loop (σ : Type) where
  scene : Scene σ
  stage : Loop.Stage := .takes 0
  /-- The responses so far. -/
  outcomes : List Outcome := []

namespace Loop

/-- What the loop gives back. -/
def result? (l : Loop σ) : Option (Except Failure (List Response)) :=
  match l.stage with
  | .over none => some (.ok (l.outcomes.map Outcome.response))
  | .over (some f) => some (.error f)
  | _ => none

/-- The stage after a piece of a call. -/
def Stage.ofProgress (index : Nat) : Answer Failure Call.Progress → Stage
  | .ok (.waits call wake wait) => .waits index call wake wait
  | .ok (.answered response) => .judges index (.ok response)
  | .error stop => .judges index (.error stop)

/-- The loop after a piece of a call. -/
def goOn (l : Loop σ) (index : Nat) (piece : Answer Failure Call.Progress × Scene σ) : Loop σ :=
  { l with scene := piece.2, stage := .ofProgress index piece.1 }

/-- The loop after the verdict on a call. -/
def judged (l : Loop σ) (index : Nat) :
    Except Failure (Option Response) × Scene σ → Loop σ
  | (.ok response, scene) =>
    { scene, stage := .takes (index + 1)
      outcomes := l.outcomes ++ response.toList.map (Outcome.mk index) }
  | (.error f, scene) => { l with scene, stage := .over (some f) }

/-- One step of the loop over some requests. -/
inductive Step (p : Plan σ) (requests : List Request) (On : Instant → Instant → Prop) :
    Loop σ → Loop σ → Prop where
  | takes {l : Loop σ} {index : Nat} {request : Request} {t : Instant}
      (hstage : l.stage = .takes index) (hrequest : requests[index]? = some request)
      (ht : On l.scene.clock.now t) :
      Step p requests On l (l.goOn index ((l.scene.later t).perform
        (p.batch.client.begin (index + 1) (request.configure p.settings.headers)
          (l.scene.later t).clock false)))
  | ends {l : Loop σ} {index : Nat} (hstage : l.stage = .takes index)
      (hrequest : requests[index]? = none) : Step p requests On l { l with stage := .over none }
  | wakes {l : Loop σ} {index : Nat} {call : Call} {wake t : Instant} {wait : Call.Wait}
      (hstage : l.stage = .waits index call wake wait) (ht : On wake t) :
      Step p requests On l (l.goOn index ((l.scene.later t).perform
        (p.batch.client.resume call wait (l.scene.later t).clock false)))
  | judges {l : Loop σ} {index : Nat} {answer : Answer Failure Response}
      (hstage : l.stage = .judges index answer) :
      Step p requests On l (l.judged index (p.judge index answer l.scene))

/-- The states that the loop comes to. -/
def Reaches (p : Plan σ) (requests : List Request) (On : Instant → Instant → Prop)
    (scene : Scene σ) : Loop σ → Prop :=
  Relation.ReflTransGen (Step p requests On) { scene }

variable {p : Plan σ} {requests : List Request} {On : Instant → Instant → Prop} {scene : Scene σ}
  {l l' : Loop σ}

/-! ## The order of the responses -/

/-- No response is for a request that is still to be taken up, or called. -/
def Stage.Above (index : Nat) : Stage → Prop
  | .takes i | .waits i _ _ _ | .judges i _ => index < i
  | .over _ => True

/-- The responses are in the order of their requests. -/
structure Ordered (l : Loop σ) : Prop where
  increasing : l.outcomes.Pairwise (·.index < ·.index)
  above : ∀ o ∈ l.outcomes, l.stage.Above o.index

theorem Stage.above_ofProgress {i index : Nat} (h : i < index)
    (progress : Answer Failure Call.Progress) : (ofProgress index progress).Above i := by
  rcases progress with _ | _ | _ <;> exact h

theorem Ordered.step (h : Ordered l) (hstep : Step p requests On l l') : Ordered l' := by
  have habove := h.above
  cases hstep with
  | takes hstage | wakes hstage =>
    simp only [hstage] at habove
    exact ⟨h.increasing, fun o ho => Stage.above_ofProgress (habove o ho) _⟩
  | ends => exact ⟨h.increasing, fun _ _ => trivial⟩
  | @judges index answer hstage =>
    simp only [hstage] at habove
    rcases p.judge index answer l.scene with ⟨f | response, scene⟩
    · exact ⟨h.increasing, fun _ _ => trivial⟩
    · cases response with
      | none =>
        simp only [judged, Option.toList_none, List.map_nil, List.append_nil]
        exact ⟨h.increasing, fun o ho => Nat.lt_succ_of_lt (habove o ho)⟩
      | some response =>
        refine ⟨List.pairwise_append.2 ⟨h.increasing, List.pairwise_singleton _ _, ?_⟩, ?_⟩
        · intro o ho o' ho'
          rw [List.mem_singleton.1 ho']
          exact habove o ho
        · intro o ho
          rcases List.mem_append.1 ho with ho | ho
          · exact Nat.lt_succ_of_lt (habove o ho)
          · rw [List.mem_singleton.1 ho]
            exact Nat.lt_succ_self _

theorem Reaches.ordered (h : Reaches p requests On scene l) : Ordered l := by
  induction h with
  | refl => exact ⟨List.Pairwise.nil, by simp⟩
  | tail _ hstep ih => exact ih.step hstep

end Loop

/-! ## The loop without lateness -/

/-- Execute the request at an index, and offer its failure to the handler. -/
@[irreducible]
def Plan.execute (p : Plan σ) (index : Nat) (request : Request) (scene : Scene σ) :
    Except Failure (Option Response) × Scene σ :=
  let request := request.configure p.settings.headers
  let ran := p.batch.client.run (index + 1) request none scene
  p.judge index (ran.1.get (p.batch.client.isSome_run (index + 1) request none scene)) ran.2

/-- Execute requests one after the other, the first at an index, up to the first failure. -/
def Plan.loop (p : Plan σ) : List Request → Nat → List Outcome → Scene σ → Loop σ
  | [], _, outcomes, scene => { scene, stage := .over none, outcomes }
  | request :: rest, index, outcomes, scene =>
    match p.execute index request scene with
    | (.ok response, scene) =>
      p.loop rest (index + 1) (outcomes ++ response.toList.map (Outcome.mk index)) scene
    | (.error f, scene) => { scene, stage := .over (some f), outcomes }

theorem Plan.loop_cons (p : Plan σ) (request : Request) (rest : List Request) (index : Nat)
    (outcomes : List Outcome) (scene : Scene σ) :
    p.loop (request :: rest) index outcomes scene =
      match p.execute index request scene with
      | (.ok response, scene) =>
        p.loop rest (index + 1) (outcomes ++ response.toList.map (Outcome.mk index)) scene
      | (.error f, scene) => { scene, stage := .over (some f), outcomes } :=
  rfl

namespace Loop

variable {p : Plan σ} {requests : List Request} {scene : Scene σ} {l l' : Loop σ}

/-- The call of the request at an index, taken up in a scene, after so many of its waits. -/
def called (p : Plan σ) (index : Nat) (request : Request) (taken : Scene σ) (n : Nat) :
    Answer Failure Call.Progress × Scene σ :=
  p.batch.client.waited (index + 1) (request.configure p.settings.headers) taken n

/-- A loop without lateness is on its way to where the recursion ends. Either it is to take up a
request, or the call of the request that it took up in a scene has come so far. -/
inductive OnTime (p : Plan σ) (requests : List Request) (last : Loop σ) : Loop σ → Prop where
  | takes {l : Loop σ} {index : Nat} (hstage : l.stage = .takes index)
      (hlast : p.loop (requests.drop index) index l.outcomes l.scene = last) :
      OnTime p requests last l
  | calls {l : Loop σ} {index : Nat} {request : Request} (taken : Scene σ) (n : Nat)
      (hrequest : requests[index]? = some request)
      (hlast : p.loop (requests.drop index) index l.outcomes taken = last)
      (hstage : l.stage = .ofProgress index (called p index request taken n).1)
      (hscene : l.scene = (called p index request taken n).2) : OnTime p requests last l
  | ends {failure : Option Failure} (hstage : last.stage = .over failure) :
      OnTime p requests last last

theorem Stage.ofProgress_ne_takes {index i : Nat} {progress : Answer Failure Call.Progress} :
    ofProgress index progress ≠ .takes i := by
  rcases progress with _ | _ | _ <;> nofun

theorem Stage.ofProgress_ne_over {index : Nat} {progress : Answer Failure Call.Progress}
    {failure : Option Failure} : ofProgress index progress ≠ .over failure := by
  rcases progress with _ | _ | _ <;> nofun

theorem Stage.ofProgress_eq_judges {index i : Nat} {progress : Answer Failure Call.Progress}
    {answer : Answer Failure Response} (h : ofProgress index progress = .judges i answer) :
    i = index ∧ Client.result? progress = some answer := by
  rcases progress with stop | _ | response <;> cases h <;> exact ⟨rfl, rfl⟩

theorem Stage.ofProgress_eq_waits {index i : Nat} {progress : Answer Failure Call.Progress}
    {call : Call} {wake : Instant} {wait : Call.Wait}
    (h : ofProgress index progress = .waits i call wake wait) :
    i = index ∧ progress = .ok (.waits call wake wait) := by
  rcases progress with stop | _ | response <;> cases h
  exact ⟨rfl, rfl⟩

/-- A request was executed when its call has come to its end. -/
theorem execute_eq {index n : Nat} {request : Request} {taken : Scene σ}
    {answer : Answer Failure Response}
    (h : Client.result? (called p index request taken n).1 = some answer) :
    p.execute index request taken = p.judge index answer (called p index request taken n).2 := by
  simp only [Plan.execute, Client.run_of_waited h, Option.get_some]
  rfl

/-- The call begins. -/
theorem called_zero {index : Nat} {request : Request} {taken : Scene σ} :
    called p index request taken 0 = taken.perform
      (p.batch.client.begin (index + 1) (request.configure p.settings.headers) taken.clock false) :=
  rfl

/-- A wait of the call ends. -/
theorem called_succ {index n : Nat} {request : Request} {taken scene : Scene σ} {call : Call}
    {wake : Instant} {wait : Call.Wait}
    (h : called p index request taken n = (.ok (.waits call wake wait), scene)) :
    called p index request taken (n + 1) = (scene.later wake).perform
      (p.batch.client.resume call wait (scene.later wake).clock false) :=
  Client.waited_succ h

theorem drop_eq {index : Nat} {request : Request} (h : requests[index]? = some request) :
    requests.drop index = request :: requests.drop (index + 1) := by
  obtain ⟨hindex, rfl⟩ := List.getElem?_eq_some_iff.1 h
  exact List.drop_eq_getElem_cons hindex

theorem OnTime.step {last : Loop σ} (h : OnTime p requests last l)
    (hstep : Step p requests (· = ·) l l') : OnTime p requests last l' := by
  cases h with
  | @takes l index hstage hlast =>
    cases hstep with
    | @takes i request t hstage' hrequest ht =>
      obtain rfl := Stage.takes.inj (hstage.symm.trans hstage')
      subst ht
      exact .calls l.scene 0 hrequest hlast (by rw [called_zero]; rfl) (by rw [called_zero]; rfl)
    | @ends i hstage' hrequest =>
      obtain rfl := Stage.takes.inj (hstage.symm.trans hstage')
      rw [List.drop_eq_nil_of_le (List.getElem?_eq_none_iff.1 hrequest)] at hlast
      subst hlast
      exact .ends rfl
    | wakes hstage' => cases hstage.symm.trans hstage'
    | judges hstage' => cases hstage.symm.trans hstage'
  | @calls l index request taken n hrequest hlast hstage hscene =>
    cases hstep with
    | takes hstage' => exact absurd (hstage.symm.trans hstage') Stage.ofProgress_ne_takes
    | ends hstage' => exact absurd (hstage.symm.trans hstage') Stage.ofProgress_ne_takes
    | @wakes i call wake t wait hstage' ht =>
      obtain ⟨rfl, hprogress⟩ := Stage.ofProgress_eq_waits (hstage.symm.trans hstage')
      subst ht
      have hnext := called_succ (Prod.ext hprogress hscene.symm)
      exact .calls taken (n + 1) hrequest hlast (by rw [hnext]; rfl) (by rw [hnext]; rfl)
    | @judges i answer hstage' =>
      obtain ⟨rfl, hresult⟩ := Stage.ofProgress_eq_judges (hstage.symm.trans hstage')
      have hexecute := execute_eq hresult
      rw [drop_eq hrequest, Plan.loop_cons, hexecute, ← hscene] at hlast
      rcases hverdict : p.judge i answer l.scene with ⟨f | response, scene⟩ <;>
        rw [hverdict] at hlast
      · subst hlast
        exact .ends rfl
      · exact .takes rfl hlast
  | ends hover =>
    cases hstep with
    | takes hstage | ends hstage | wakes hstage | judges hstage => cases hover.symm.trans hstage

theorem Reaches.onTime (h : Reaches p requests (· = ·) scene l) :
    OnTime p requests (p.loop requests 0 [] scene) l := by
  induction h with
  | refl => exact .takes rfl (by rw [List.drop_zero])
  | tail _ hstep ih => exact ih.step hstep

/-- A loop without lateness comes to where the recursion ends. -/
theorem Reaches.eq_loop (h : Reaches p requests (· = ·) scene l) {failure : Option Failure}
    (hover : l.stage = .over failure) : l = p.loop requests 0 [] scene := by
  cases h.onTime with
  | takes hstage => cases hover.symm.trans hstage
  | calls _ _ _ _ hstage => exact absurd (hstage.symm.trans hover) Stage.ofProgress_ne_over
  | ends => rfl

end Loop

end Courier.Batch
