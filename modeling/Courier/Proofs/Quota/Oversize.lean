import Courier.Proofs.Quota.Sums

/-!
# Numbers that are too large

A server may state any number. One that does not fit in a word of 64 bits is refused, and so is a
moment or a delay that a clock cannot show (`Quota.Oversized`) : a response that states one is
answered with the header that makes no sense (`Quota.update_of_oversized`), and nothing of it is
added to an instant. Together with the bound on how far a quota runs ahead of the clock, no call
of a quota crashes (`Quota.never_crashes`).
-/

namespace Courier

open Limiter (Refusal)

/-! ## Texts -/

namespace Natural

/-- A text that writes a number too large for a word of 64 bits. -/
def TooLarge (text : String) : Prop :=
  ∃ ds : List Char, (text.toList = ds ∨ text.toList = '+' :: ds) ∧
    (∀ d ∈ ds, '0' ≤ d ∧ d ≤ '9') ∧ bound64 ≤ ofDigits ds

/-- A number that is read is below the bound, and is what the digits write. -/
theorem extendBounded_ok {bound : Nat} :
    ∀ {ds : List Char} {n m : Nat}, n < bound → extendBounded bound n ds = .ok m →
      m < bound ∧ ds.foldl (fun n c => n * 10 + (c.toNat - '0'.toNat)) n = m
  | [], _, _, hn, h => by
    cases h
    exact ⟨hn, rfl⟩
  | c :: ds, n, m, _, h => by
    simp only [extendBounded, digit?] at h
    by_cases hc : '0' ≤ c ∧ c ≤ '9'
    · simp only [if_pos hc] at h
      split at h
      · next hbound =>
        obtain ⟨hlt, hvalue⟩ := extendBounded_ok hbound h
        exact ⟨hlt, hvalue⟩
      · cases h
    · simp [if_neg hc] at h

/-- A number that is too large is not read. -/
theorem TooLarge.not_read {text : String} (h : TooLarge text) :
    ∃ fault, readBounded bound64 text.toList = .error fault := by
  obtain ⟨ds, htext, hdigits, hlarge⟩ := h
  have hlong (n : Nat) (hn : extendBounded bound64 0 ds = .ok n) : False := by
    obtain ⟨hlt, hvalue⟩ := extendBounded_ok (Nat.two_pow_pos 64) hn
    exact absurd hlt (Nat.not_lt.2 (hvalue ▸ hlarge))
  have hread : ∃ fault, extendBounded bound64 0 ds = .error fault := by
    cases hds : extendBounded bound64 0 ds with
    | error fault => exact ⟨fault, rfl⟩
    | ok n => exact (hlong n hds).elim
  cases ds with
  | nil => exact absurd hlarge (by decide)
  | cons d ds =>
    rcases htext with htext | htext <;> rw [htext]
    · have hd : d ≠ '+' := by
        rintro rfl
        exact absurd (hdigits _ List.mem_cons_self).1 (by decide)
      unfold readBounded
      split
      · exact ⟨_, rfl⟩
      · exact ⟨_, rfl⟩
      · next heq => exact absurd (List.cons.inj heq).1 hd
      · exact hread
    · exact hread

/-- A number has no blank. -/
theorem TooLarge.blank_not_mem {text : String} (h : TooLarge text) : ' ' ∉ text.toList := by
  obtain ⟨ds, htext, hdigits, -⟩ := h
  have hds : ' ' ∉ ds := fun hmem => absurd (hdigits _ hmem).1 (by decide)
  rcases htext with htext | htext <;> rw [htext]
  · exact hds
  · simpa using hds

end Natural

namespace HttpDate

variable {cs : List Char}

theorem has_eq_false {start : Nat} {word : String} (h : ' ' ∉ cs) (hword : ' ' ∈ word.toList) :
    has start word cs = false := by
  unfold has slice
  refine decide_eq_false fun heq => h ?_
  rw [← heq] at hword
  exact List.mem_of_mem_drop (List.mem_of_mem_take hword)

/-- A text without a blank is no date in any notation. -/
theorem parse?_eq_none {text : String} (h : ' ' ∉ text.toList) : parse? text = none := by
  have htrim : ' ' ∉ Text.trimChars text.toList := by
    intro hmem
    have hdrop := (List.dropWhile_sublist _).subset (List.mem_reverse.1 hmem)
    exact h ((List.dropWhile_sublist _).subset (List.mem_reverse.1 hdrop))
  unfold parse?
  generalize Text.trimChars text.toList = cs at htrim ⊢
  have hfixed : fixed? cs = none := by
    have hhas : has 25 " GMT" cs = false := has_eq_false htrim (by decide)
    simp [fixed?, hhas]
  have hdashed : dashed? cs = none := by
    have hlong : longDay? cs = none := by
      unfold longDay?
      rw [Option.map_eq_none_iff, List.findIdx?_eq_none_iff]
      exact fun d _ => has_eq_false htrim (by simp)
    simp [dashed?, hlong]
  have hplain : plain? cs = none := by
    have hhas : has 10 " " cs = false := has_eq_false htrim (by decide)
    simp [plain?, hhas]
  simp [hfixed, hdashed, hplain]

end HttpDate

/-! ## Responses -/

namespace Quota

/-- The text of the first header of some names whose first value is not blank. -/
def statedText? (headers : Headers) : List Header.Name → Option String
  | [] => none
  | name :: names =>
    match headers.first? name with
    | none => statedText? headers names
    | some value =>
      let text := Text.trim value.lossy
      if text = "" then statedText? headers names else some text

/-- A response states a number that is too large, or a moment or a delay that a clock cannot
show. -/
inductive Oversized (q : Quota) (clock : Clock) (headers : Headers) : Prop where
  | number {names : List Header.Name} {text : String}
      (hnames : names = limitNames ∨ names = remainingNames ∨ names = resetNames)
      (htext : statedText? headers names = some text) (hlarge : Natural.TooLarge text)
  | reset {n : Nat} (hstated : stated headers resetNames = .ok (some n))
      (hmoment : maxWall < q.units.duration n ∨
        maxInstant < clock.now + clock.untilWall (q.units.duration n))
  | retryNumber {value : Header.Value} {text : String}
      (hvalue : headers.first? Header.retryAfter = some value) (htext : value.text? = some text)
      (hlarge : Natural.TooLarge (Text.trim text))
  | retry {value : Header.Value} {d : Duration}
      (hvalue : headers.first? Header.retryAfter = some value)
      (hdelay : q.delayOf? clock value = some d) (hend : maxInstant < clock.now + d)

variable {q : Quota} {w : Window} {start : Instant} {clock : Clock} {status : Status}
  {headers : Headers}

theorem stated_of_tooLarge {names : List Header.Name} {text : String}
    (htext : statedText? headers names = some text) (hlarge : Natural.TooLarge text) :
    ∃ e, stated headers names = .error e := by
  induction names with
  | nil => cases htext
  | cons name names ih =>
    unfold statedText? at htext
    unfold stated
    cases hvalue : headers.first? name with
    | none =>
      rw [hvalue] at htext
      exact ih htext
    | some value =>
      simp only [hvalue] at htext ⊢
      by_cases hblank : Text.trim value.lossy = ""
      · rw [if_pos hblank] at htext ⊢
        exact ih htext
      · rw [if_neg hblank] at htext ⊢
        obtain ⟨fault, hfault⟩ := hlarge.not_read
        rw [Option.some.inj htext, hfault]
        exact ⟨_, rfl⟩

/-- The numbers of a response are taken only if all of them make sense. -/
theorem stated_of_takeStated {v : Window} (h : q.takeStated w clock headers = (.ok (), v)) :
    (∀ names, names = limitNames ∨ names = remainingNames ∨ names = resetNames →
      ∃ n, stated headers names = .ok n) ∧
      ∀ n, stated headers resetNames = .ok (some n) → (q.instantOf? clock n).isSome := by
  unfold takeStated at h
  rcases hlimit : stated headers limitNames with e | limit
  · simp [hlimit] at h
  rcases hremaining : stated headers remainingNames with e | remaining
  · simp [hlimit, hremaining] at h
  rcases hreset : stated headers resetNames with e | reset
  · simp [hlimit, hremaining, hreset] at h
  refine ⟨?_, fun n hn => ?_⟩
  · rintro names (rfl | rfl | rfl)
    · exact ⟨_, hlimit⟩
    · exact ⟨_, hremaining⟩
    · exact ⟨_, hreset⟩
  · obtain rfl := Except.ok.inj hn
    cases hinstant : q.instantOf? clock n with
    | none => simp [hlimit, hremaining, hreset, hinstant] at h
    | some t => rfl

/-- A moment or a delay that a clock cannot show is no instant. -/
theorem instantOf?_of_oversized {n : Nat} (h : maxWall < q.units.duration n ∨
    maxInstant < clock.now + clock.untilWall (q.units.duration n)) :
    q.instantOf? clock n = none := by
  unfold instantOf? Instant.add?
  rcases h with h | h
  · exact if_neg (Int.not_le.2 h)
  · simp [Int.not_le.2 h]

/-- A response that states too large a number is refused for a header that makes no sense. -/
theorem update_of_oversized (h : q.Oversized clock headers) :
    ∃ name value, (q.update w clock status headers).1 =
      some (.error (.invalidHeader name value)) := by
  unfold update
  rcases htaken : q.takeStated w clock headers with ⟨e | ⟨⟩, v⟩
  · obtain ⟨name, value, rfl⟩ := (takes_takeStated q w clock headers).refused e (by rw [htaken])
    exact ⟨name, value, rfl⟩
  obtain ⟨hstated, hinstant⟩ := stated_of_takeStated htaken
  cases h with
  | number hnames htext hlarge =>
    obtain ⟨e, he⟩ := stated_of_tooLarge htext hlarge
    obtain ⟨n, hn⟩ := hstated _ hnames
    rw [he] at hn
    cases hn
  | reset hnumber hmoment =>
    have := hinstant _ hnumber
    rw [instantOf?_of_oversized hmoment] at this
    cases this
  | @retryNumber value text hvalue htext hlarge =>
    obtain ⟨fault, hfault⟩ := hlarge.not_read
    have hdelay : q.delayOf? clock value = none := by
      simp [delayOf?, htext, hfault, HttpDate.parse?_eq_none hlarge.blank_not_mem]
    simp [hvalue, hdelay]
  | retry hvalue hdelay hend =>
    simp [hvalue, hdelay, Instant.add?, Int.not_le.2 hend]

/-! ## No call crashes -/

/-- A quota answers all of some calls, in which no sum is beyond the clock, no quotient by zero and
no difference below zero, as long as the clock shows as many windows from the time of each call as
there are calls. A response that states too large a number is refused for a header that makes no
sense. -/
theorem never_crashes (hbegin : q.begin? start = some w) {ops : List Op}
    (hroom : ∀ op ∈ ops, op.instant + (ops.length * q.window : Nat) ≤ maxInstant) :
    ∃ replies, Strict.performAll? q w ops = some (replies, q.afterAll w ops) ∧
      replies.length = ops.length ∧
      ∀ before clock status headers after, ops = before ++ .update clock status headers :: after →
        q.Oversized clock headers → ∃ name value,
          replies[before.length]? = some (.verdict (.error (.invalidHeader name value))) := by
  have hahead : q.Ahead ops.length w := by
    intro _ last hlast
    rw [(begin_limit hbegin).2.1] at hlast
    cases hlast
  obtain ⟨replies, hreplies⟩ := exists_performAll? hahead hroom
  refine ⟨replies, hreplies, Strict.length_performAll? hreplies, ?_⟩
  rintro before clock status headers after rfl hover
  obtain ⟨w', reply, v, hreply, hget⟩ := Strict.exists_perform? hreplies
  have hverdict : ∃ name value, (q.update w' clock status headers).1 =
      some (.error (.invalidHeader name value)) := update_of_oversized hover
  obtain ⟨name, value, hrefused⟩ := hverdict
  refine ⟨name, value, hget.trans ?_⟩
  simp only [Strict.perform?_eq, reply?, hrefused, Option.map_some, Option.some.injEq,
    Prod.mk.injEq] at hreply
  exact congrArg some hreply.1.symm

/-- Two requests, and a response that asks for a delay of 2^64 seconds. -/
theorem never_crashes_delayed :
    let q : Quota := { events := 1, window := 100, pacing := .meter }
    let w : Window := { limit := 1, remaining := 1, reset := 100, last := none }
    let text := "18446744073709551616"
    let headers : Headers := ⟨[⟨Header.retryAfter, [{ bytes := Utf8.encode text }]⟩]⟩
    let ops : List Op := [.next 0, .next 0, .update ⟨5, 0⟩ .tooManyRequests headers]
    q.begin? 0 = some w ∧ (∀ op ∈ ops, op.instant + (ops.length * q.window : Nat) ≤ maxInstant) ∧
      q.Oversized ⟨5, 0⟩ headers ∧
      ∃ replies, Strict.performAll? q w ops = some (replies, q.afterAll w ops) ∧
        ∃ name value, replies[2]? = some (.verdict (.error (.invalidHeader name value))) := by
  intro q w text headers ops
  have hbegin : q.begin? 0 = some w := by decide
  have hroom : ∀ op ∈ ops, op.instant + (ops.length * q.window : Nat) ≤ maxInstant := by decide
  have htext : Header.Value.text? { bytes := Utf8.encode text } = some text := by decide +kernel
  have hdigits : ∀ d ∈ text.toList, '0' ≤ d ∧ d ≤ '9' := by simp [text]
  have hlarge : Natural.TooLarge (Text.trim text) :=
    ⟨text.toList, .inl (by decide +kernel), hdigits, by decide +kernel⟩
  have hover : q.Oversized ⟨5, 0⟩ headers := .retryNumber rfl htext hlarge
  obtain ⟨replies, hreplies, -, hrefused⟩ := never_crashes hbegin hroom
  exact ⟨hbegin, hroom, hover, replies, hreplies,
    hrefused [.next 0, .next 0] ⟨5, 0⟩ .tooManyRequests headers [] rfl hover⟩

end Quota

end Courier
