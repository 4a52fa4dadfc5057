import Courier.Batch.Run
import Courier.Proofs.Call.Piece

/-!
# Collecting the results of a batch

Somebody who collects the results of a batch reads them up to the end or to the first failure.
The production, the jobs and the reader take their steps in any order, and time passes in between
(`Batch.Turn`). No one cancels the batch, and the reader does not leave it before the end.

A run keeps a history of what the collaborators answered : the producer at each index, the call of
each job, and the handler. `Settles` and `Fails` say, of a history, what came of a job. A job
settles if its call was answered, or if the handler, asked once about the very failure of the
call, gave a response in its place or dropped it. It fails if neither happened.
-/

namespace Courier

namespace Batch

variable {σ : Type}

/-- What a step shows to the outside. -/
inductive Happening where
  /-- The producer answered at an index. -/
  | asked (index : Nat) (answer : Answer Failure (Option Request))
  /-- The call of a job came to its end. -/
  | called (index : Nat) (answer : Answer Failure Response)
  /-- The handler answered about the failure of a job. -/
  | handled (index : Nat) (f : Failure) (answer : Answer Failure (Option Response))
  /-- Somebody took another step. -/
  | moved
  /-- Time passed. -/
  | passed

/-- Whether somebody took a step. -/
def Happening.isStep : Happening → Bool
  | .passed => false
  | _ => true

/-- A batch whose results are collected. -/
structure Collection (σ : Type) where
  state : State σ
  /-- The results that were read. -/
  taken : List Outcome := []
  /-- The end of the results : all of them were read, or a failure. -/
  ending : Option (Option Failure) := none

namespace Collection

/-- The collection at a later time. -/
def later (c : Collection σ) (t : Instant) : Collection σ :=
  { c with state := { c.state with scene := c.state.scene.later t } }

/-- The collection after its reader read something. -/
def read (c : Collection σ) (answer : Except Failure (Option Outcome)) (outlet : Outlet Outcome) :
    Collection σ :=
  let state := { c.state with outlet }
  match answer with
  | .ok (some outcome) => { c with state, taken := c.taken ++ [outcome] }
  | .ok none => { c with state, ending := some none }
  | .error f => { c with state, ending := some (some f) }

/-- What the collector gives back, once the results have ended. -/
def result? (c : Collection σ) : Option (Except Failure (List Response)) :=
  c.ending.map fun failure =>
    collected (c.taken.map Except.ok ++ failure.toList.map Except.error)

end Collection

/-! ## Steps -/

section

variable (p : Plan σ)

/-- What a step of production shows. -/
def shownByProduction (s : State σ) : Happening :=
  match s.production with
  | .asks index => .asked index (p.producer index s.scene.world).1
  | _ => .moved

/-- What comes to light when a piece of a call is over. -/
def shownByCall (index : Nat) (progress : Answer Failure Call.Progress) : Happening :=
  match Client.result? progress with
  | some answer => .called index answer
  | none => .moved

/-- What a step of a job shows. -/
def shownByJob (s : State σ) (j : Job) : Happening :=
  match j.work with
  | .begins => shownByCall j.index (s.act (j.begin p s)).1
  | .calls call _ wait => shownByCall j.index (s.act (resumed p s call wait)).1
  | .handles f =>
    match p.handler with
    | none => .moved
    | some handler => .handled j.index f (handler f s.scene.world).1
  | _ => .moved

/-- One step of somebody, or of time. -/
inductive Turn : Collection σ → Happening → Collection σ → Prop where
  | produces {c : Collection σ} {s : State σ} (h : produce p c.state = some s) :
      Turn c (shownByProduction p c.state) { c with state := s }
  | advances {c : Collection σ} {s : State σ} {j : Job} (hj : c.state.job? j.index = some j)
      (h : step p c.state j = some s) :
      Turn c (shownByJob p c.state j) { c with state := s }
  | reads {c : Collection σ} {answer : Except Failure (Option Outcome)} {outlet : Outlet Outcome}
      (h : c.state.outlet.next = some (answer, outlet)) :
      Turn c .moved (c.read answer outlet)
  | passes {c : Collection σ} {t : Instant} (h : c.state.scene.clock.now ≤ t) :
      Turn c .passed (c.later t)

/-- Runs from a state up to the end of the results, with what they show. -/
inductive Run (s : State σ) : List Happening → Collection σ → Prop where
  | start : Run s [] { state := s }
  | turn {h : List Happening} {e : Happening} {c c' : Collection σ} (hrun : Run s h c)
      (hrunning : c.ending = none) (hturn : Turn p c e c') : Run s (h ++ [e]) c'

/-- Who takes the next step. -/
inductive Choice where
  | produces
  /-- The job at an index. -/
  | advances (index : Nat)
  | reads
  /-- Time, up to an instant. -/
  | passes (t : Instant)
  deriving Repr, DecidableEq, Inhabited

/-- The step of whoever is to take it, unless that one has to wait. -/
def turn? (c : Collection σ) : Choice → Option (Happening × Collection σ)
  | .produces =>
    (produce p c.state).map fun s => (shownByProduction p c.state, { c with state := s })
  | .advances index =>
    (c.state.job? index).bind fun j =>
      (step p c.state j).map fun s => (shownByJob p c.state j, { c with state := s })
  | .reads => c.state.outlet.next.map fun (answer, outlet) => (.moved, c.read answer outlet)
  | .passes t => if c.state.scene.clock.now ≤ t then some (.passed, c.later t) else none

/-- Go on with steps that are taken by some in turn, if each of them can move then. -/
def play : List Choice → List Happening → Collection σ →
    Option (List Happening × Collection σ)
  | [], h, c => some (h, c)
  | choice :: later, h, c =>
    if c.ending.isSome then none
    else (turn? p c choice).bind fun (e, c') => play later (h ++ [e]) c'

variable {p}

theorem Turn.of_turn? {c c' : Collection σ} {choice : Choice} {e : Happening}
    (hturn : turn? p c choice = some (e, c')) : Turn p c e c' := by
  cases choice with
  | produces =>
    obtain ⟨s, hs, heq⟩ := Option.map_eq_some_iff.1 hturn
    cases heq
    exact .produces hs
  | advances index =>
    obtain ⟨j, hj, hstep⟩ := Option.bind_eq_some_iff.1 hturn
    obtain ⟨s, hs, heq⟩ := Option.map_eq_some_iff.1 hstep
    cases heq
    have hindex : j.index = index := by simpa using List.find?_some hj
    exact .advances (hindex ▸ hj) hs
  | reads =>
    obtain ⟨⟨answer, outlet⟩, hnext, heq⟩ := Option.map_eq_some_iff.1 hturn
    cases heq
    exact .reads hnext
  | passes t =>
    simp only [turn?] at hturn
    split at hturn
    · next hle =>
      cases hturn
      exact .passes hle
    · cases hturn

/-- A run that is played on is a run. -/
theorem Run.play {s : State σ} : ∀ (choices : List Choice) {h h' : List Happening}
    {c c' : Collection σ}, Run p s h c → Batch.play p choices h c = some (h', c') → Run p s h' c'
  | [], _, _, _, _, hrun, hplay => by
    cases hplay
    exact hrun
  | choice :: later, h, _, c, _, hrun, hplay => by
    unfold Batch.play at hplay
    split at hplay
    · cases hplay
    · next hrunning =>
      obtain ⟨⟨e, c'⟩, hturn, hlater⟩ := Option.bind_eq_some_iff.1 hplay
      have hrun' := hrun.turn (by simpa using hrunning) (.of_turn? hturn)
      exact hrun'.play later hlater

end

/-! ## What came of a job -/

/-- The ends of the call of a job. -/
def callsOf (h : List Happening) (index : Nat) : List (Answer Failure Response) :=
  h.filterMap fun
    | .called i answer => if i = index then some answer else none
    | _ => none

/-- The failures of a job about which the handler was asked, with its answers. -/
def handledOf (h : List Happening) (index : Nat) :
    List (Failure × Answer Failure (Option Response)) :=
  h.filterMap fun
    | .handled i f answer => if i = index then some (f, answer) else none
    | _ => none

/-- The producer had no more requests at an index. -/
def Exhausted (h : List Happening) (index : Nat) : Prop :=
  .asked index (.ok none) ∈ h

/-- A job has a response, its own or one that the handler gave for it, or the handler dropped it. -/
inductive Settles (h : List Happening) (index : Nat) : Option Response → Prop where
  | answered {response : Response} (hcall : callsOf h index = [.ok response])
      (hhandled : handledOf h index = []) : Settles h index (some response)
  | recovered {f : Failure} {response : Option Response}
      (hcall : callsOf h index = [.error (.error f)])
      (hhandled : handledOf h index = [(f, .ok response)]) : Settles h index response

/-- A job failed for good. -/
inductive Fails (p : Plan σ) (h : List Happening) (index : Nat) : Failure → Prop where
  | unhandled {f : Failure} (hhandler : p.handler.isNone)
      (hcall : .called index (.error (.error f)) ∈ h) : Fails p h index (.multiplex index f)
  | handler {f g : Failure} (hcall : .called index (.error (.error f)) ∈ h)
      (hhandled : .handled index f (.error (.error g)) ∈ h) : Fails p h index (.multiplex index g)
  | crashed {crash : Crash} (hcall : .called index (.error (.crash crash)) ∈ h) :
      Fails p h index (.crashed (crash.message.getD "unknown panic"))
  | handlerCrashed {f : Failure} {crash : Crash} (hcall : .called index (.error (.error f)) ∈ h)
      (hhandled : .handled index f (.error (.crash crash)) ∈ h) :
      Fails p h index (.crashed (crash.message.getD "unknown panic"))

/-- A failure that ends the results : a job failed for good, or the producer failed. -/
inductive Cause (p : Plan σ) (h : List Happening) : Failure → Prop where
  | job {index : Nat} {f : Failure} (hfails : Fails p h index f) : Cause p h f
  | production {index : Nat} {f : Failure} (hasked : .asked index (.error (.error f)) ∈ h) :
      Cause p h (.producer index f)

end Batch

end Courier
