import Courier.Proofs.Quota.History

/-!
# What a refused response leaves behind

The limit, what remains and the reset that a response states are taken one after the other. Where
one of them makes no sense the response is refused, and the numbers before it stay taken
(`Quota.Halts`). So of a refused response either all of a number is taken or nothing : what comes
before the header at fault in this order is as the response states it, and the rest of the window
is as it was (`Quota.update_refused`).
-/

namespace Courier

open Limiter (Refusal)

/-- A window with the limit and what remains that a response states. -/
def Window.stating (w : Window) (limit remaining : Option Nat) : Window :=
  { w with
    limit := (limit.map (max · 1)).getD w.limit
    remaining := remaining.getD w.remaining }

namespace Quota

/-- Where the numbers of a response stop to make sense, and the window that is left there. -/
inductive Halts (q : Quota) (w : Window) (clock : Clock) (headers : Headers) :
    Refusal → Window → Prop where
  | limit {e : Refusal} (hlimit : stated headers limitNames = .error e) :
      Halts q w clock headers e w
  | remaining {e : Refusal} {limit : Option Nat} (hlimit : stated headers limitNames = .ok limit)
      (hremaining : stated headers remainingNames = .error e) :
      Halts q w clock headers e (w.stating limit none)
  | reset {e : Refusal} {limit remaining : Option Nat}
      (hlimit : stated headers limitNames = .ok limit)
      (hremaining : stated headers remainingNames = .ok remaining)
      (hreset : stated headers resetNames = .error e) :
      Halts q w clock headers e (w.stating limit remaining)
  /-- The clock cannot show the moment of reset. -/
  | moment {n : Nat} {limit remaining : Option Nat}
      (hlimit : stated headers limitNames = .ok limit)
      (hremaining : stated headers remainingNames = .ok remaining)
      (hreset : stated headers resetNames = .ok (some n)) (hmoment : q.instantOf? clock n = none) :
      Halts q w clock headers (.invalidHeader "x-ratelimit-reset" (toString n))
        (w.stating limit remaining)

variable {q : Quota} {w v : Window} {clock : Clock} {status : Status} {headers : Headers}
  {e : Refusal}

/-- The numbers of a response are taken one after the other, until one makes no sense. -/
theorem takeStated_eq (q : Quota) (w : Window) (clock : Clock) (headers : Headers) :
    q.takeStated w clock headers =
      match stated headers limitNames with
      | .error e => (.error e, w)
      | .ok limit =>
        match stated headers remainingNames with
        | .error e => (.error e, w.stating limit none)
        | .ok remaining =>
          match stated headers resetNames with
          | .error e => (.error e, w.stating limit remaining)
          | .ok none => (.ok (), w.stating limit remaining)
          | .ok (some n) =>
            match q.instantOf? clock n with
            | some reset => (.ok (), { w.stating limit remaining with reset })
            | none =>
              (.error (.invalidHeader "x-ratelimit-reset" (toString n)),
                w.stating limit remaining) := by
  unfold takeStated
  rcases stated headers limitNames with _ | _ | limit
  · rfl
  all_goals
    rcases stated headers remainingNames with _ | _ | remaining
    · rfl
    all_goals
      rcases stated headers resetNames with _ | _ | n
      · rfl
      · rfl
      · cases hinstant : q.instantOf? clock n <;> simp only [hinstant] <;> rfl

theorem halts_of_takeStated (h : q.takeStated w clock headers = (.error e, v)) :
    q.Halts w clock headers e v := by
  rw [takeStated_eq] at h
  split at h
  · next hlimit =>
    cases h
    exact .limit hlimit
  next limit hlimit =>
  split at h
  · next hremaining =>
    cases h
    exact .remaining hlimit hremaining
  next remaining hremaining =>
  split at h
  · next hreset =>
    cases h
    exact .reset hlimit hremaining hreset
  · cases h
  next n hreset =>
  split at h
  · cases h
  next hmoment =>
  cases h
  exact .moment hlimit hremaining hreset hmoment

/-- Where a response is refused for another header than the one that puts off retries, its numbers
stop to make sense. -/
theorem halts_of_update {name value : String} (hname : name ≠ Header.retryAfter.text)
    (h : q.update w clock status headers = (some (.error (.invalidHeader name value)), v)) :
    q.Halts w clock headers (.invalidHeader name value) v := by
  unfold update at h
  rcases htaken : q.takeStated w clock headers with ⟨e | ⟨⟩, w'⟩
  · simp only [htaken, Prod.mk.injEq, Option.some.injEq, Except.error.injEq] at h
    obtain ⟨rfl, rfl⟩ := h
    exact halts_of_takeStated htaken
  simp only [htaken] at h
  split at h
  · split at h
    · simp only [Prod.mk.injEq, Option.some.injEq, Except.error.injEq,
        Refusal.invalidHeader.injEq] at h
      exact absurd h.1.1.symm hname
    · cases h
  · split at h
    · split at h <;> cases h
    · cases h

/-- A header that is refused is one of those whose number makes no sense. -/
theorem mem_of_stated_error {names : List Header.Name} {name : Header.Name} {value : String}
    (h : stated headers names = .error (.invalidHeader name.text value)) : name ∈ names := by
  obtain ⟨⟨text⟩, hmem, value', he⟩ := exists_mem_of_stated_error h
  obtain ⟨rfl, -⟩ := Refusal.invalidHeader.inj he
  exact hmem

theorem Halts.reset_eq (h : q.Halts w clock headers e v) :
    v.reset = w.reset ∧ v.last = w.last := by
  cases h <;> exact ⟨rfl, rfl⟩

/-- A response that is refused for one of its numbers leaves the reset as it was. If the header at
fault is one that states the limit, nothing is changed. If it is one that states what remains, the
limit is taken, where one is stated, and if it is one that states the reset, the limit and what
remains are. -/
theorem update_refused (name : Header.Name) {value : String}
    (hname : name ∈ limitNames ++ remainingNames ++ resetNames)
    (h : q.update w clock status headers = (some (.error (.invalidHeader name.text value)), v)) :
    v.reset = w.reset ∧ v.last = w.last ∧
      (name ∈ limitNames ∧ v = w ∨
        name ∈ remainingNames ∧ (∃ limit, stated headers limitNames = .ok limit ∧
          v = w.stating limit none) ∨
        name ∈ resetNames ∧ ∃ limit remaining, stated headers limitNames = .ok limit ∧
          stated headers remainingNames = .ok remaining ∧ v = w.stating limit remaining) := by
  have hother : ∀ name ∈ limitNames ++ remainingNames ++ resetNames,
      name.text ≠ Header.retryAfter.text := by decide
  have hhalts := halts_of_update (hother name hname) h
  refine ⟨hhalts.reset_eq.1, hhalts.reset_eq.2, ?_⟩
  generalize he : Refusal.invalidHeader name.text value = e at hhalts
  cases hhalts with
  | limit hlimit =>
    subst he
    exact .inl ⟨mem_of_stated_error hlimit, rfl⟩
  | remaining hlimit hremaining =>
    subst he
    exact .inr (.inl ⟨mem_of_stated_error hremaining, _, hlimit, rfl⟩)
  | reset hlimit hremaining hreset =>
    subst he
    exact .inr (.inr ⟨mem_of_stated_error hreset, _, _, hlimit, hremaining, rfl⟩)
  | moment hlimit hremaining hreset hmoment =>
    have hfirst : name = ⟨"x-ratelimit-reset"⟩ := by
      obtain ⟨text⟩ := name
      exact congrArg Header.Name.mk (Refusal.invalidHeader.inj he).1
    exact .inr (.inr ⟨hfirst ▸ List.mem_cons_self, _, _, hlimit, hremaining, rfl⟩)

/-- The headers of a response that states a limit, what remains and the moment of reset as texts. -/
def responseStating (limit remaining reset : String) : Headers :=
  .ofFields [(⟨"x-ratelimit-limit"⟩, ⟨Utf8.encode limit, false⟩),
    (⟨"x-ratelimit-remaining"⟩, ⟨Utf8.encode remaining, false⟩),
    (⟨"x-ratelimit-reset"⟩, ⟨Utf8.encode reset, false⟩)]

/-- A moment of reset that no clock shows, after a limit and what remains of it. -/
theorem update_refused_moment :
    let q : Quota := {}
    let w : Window := { limit := 60, remaining := 60, reset := 60 * second, last := none }
    let v : Window := { limit := 5, remaining := 2, reset := 60 * second, last := none }
    let headers := responseStating "5" "2" "18446744073709551615"
    q.begin? 0 = some w ∧
      q.update w ⟨0, 0⟩ 200 headers =
        (some (.error (.invalidHeader "x-ratelimit-reset" "18446744073709551615")), v) ∧
      v.reset = w.reset := by
  intro q w v headers
  have hupdate : q.update w ⟨0, 0⟩ 200 headers =
      (some (.error (.invalidHeader "x-ratelimit-reset" "18446744073709551615")), v) := by
    rfl
  exact ⟨by decide, hupdate, (update_refused ⟨"x-ratelimit-reset"⟩ (by decide) hupdate).1⟩

/-- A response that is refused for what it states to remain has changed the limit of a fresh
quota. -/
theorem refused_but_taken :
    let q : Quota := {}
    let w : Window := { limit := 60, remaining := 60, reset := 60 * second, last := none }
    q.begin? 0 = some w ∧
      ∃ v, q.update w ⟨0, 0⟩ 200 (responseStating "5" "lots" "0") =
          (some (.error (.invalidHeader "x-ratelimit-remaining" "lots")), v) ∧
        v.limit = 5 ∧ w.limit ≠ 5 :=
  ⟨by decide, { limit := 5, remaining := 60, reset := 60 * second, last := none },
    rfl, rfl, by decide⟩

end Quota

end Courier
