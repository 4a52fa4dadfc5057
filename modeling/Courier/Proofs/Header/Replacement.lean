import Courier.Options
import Courier.Proofs.Header.Merging

/-!
# Names that are replaced

Options and requests take over all values of the names of another header map
(`Headers.get_replaceWith`). A header authorizer takes over the first value of each name only
(`Credentials.get_firstValues`), so it agrees with them exactly if its map has no name with two
values (`Credentials.header_replaces_iff`). Doing it twice is doing it once, since what is inserted
is there already (`Headers.insert_eq_self`).
-/

namespace Courier

open Header (Name Value)

namespace Headers

variable {h other : Headers} {name n : Name} {v : Value}

/-! ## All values -/

/-- A map with the names of another one replaced has their values there, and of other names its
own. -/
theorem get_replaceWith (hproper : h.Proper) (hother : other.Proper) :
    (h.replaceWith other).get n = if other.contains n then other.get n else h.get n := by
  have hlayers := hproper.layers.replaceWith hother
  rw [hlayers.get, layered, List.find?_cons]
  by_cases hn : other.contains n
  · simp [hn]
  by_cases hh : h.contains n
  · simp [hn, hh]
  · simp [hn, hh, get_of_not_contains hh]

/-! ## A single value -/

/-- Nothing is changed by a value that a name has already, and no other. -/
theorem insert_eq_self (hget : h.get name = [v]) : h.insert name v = h := by
  obtain ⟨es⟩ := h
  have hupdate : update name (fun _ => [v]) es = es := by
    rw [get_eq] at hget
    induction es with
    | nil => simp [find?] at hget
    | cons e es ih =>
      rw [find?_cons] at hget
      unfold update
      by_cases he : e.name = name
      · obtain ⟨n, vs⟩ := e
        obtain rfl : n = name := he
        simp only [↓reduceIte, Option.map_some, Option.getD_some] at hget
        rw [if_pos rfl, ← hget]
      · rw [if_neg he] at hget ⊢
        rw [ih hget]
  exact congrArg Headers.mk hupdate

end Headers

namespace Credentials

variable {σ : Type} {h headers : Headers} {n : Name}

/-- A header authorizer gives a request the first value of each of its names. -/
theorem get_firstValues (hproper : h.Proper) (hheaders : headers.Proper) :
    (firstValues h headers).Proper ∧ (firstValues h headers).get n =
      if headers.contains n then (headers.get n).take 1 else h.get n := by
  unfold firstValues Headers.names
  rw [List.foldl_map]
  refine And.imp id (fun hget => (hget n).trans ?_) (@Headers.get_foldl _ _
    (fun _ vs => vs.take 1) _ (fun e he => ?_) hheaders.nodup hproper)
  · obtain ⟨v, vs, hvs⟩ := List.exists_cons_of_ne_nil (hheaders.filled e he)
    have hfirst : headers.first? e.name = some v := by
      rw [Headers.first?, Headers.get_eq, Headers.find?_of_mem hheaders.nodup he]
      simp [hvs]
    simp only [hfirst]
    exact ⟨fun hproper => hproper.insert, fun _ n => by rw [Headers.get_insert, hvs]; rfl⟩
  · rw [Headers.contains, Headers.get_eq (h := headers)]
    cases Headers.find? n headers.entries <;> rfl

/-- A request that has the first values already is not changed. -/
theorem firstValues_eq_self
    (hget : ∀ n v, headers.first? n = some v → h.get n = [v]) : firstValues h headers = h := by
  unfold firstValues
  induction headers.names with
  | nil => rfl
  | cons n names ih =>
    rw [List.foldl_cons]
    cases hfirst : headers.first? n with
    | none => exact ih
    | some v =>
      simp only [Headers.insert_eq_self (hget n v hfirst)]
      exact ih

theorem firstValues_firstValues (hproper : h.Proper) (hheaders : headers.Proper) :
    firstValues (firstValues h headers) headers = firstValues h headers := by
  refine firstValues_eq_self fun n v hfirst => ?_
  obtain ⟨vs, hvs⟩ := List.head?_eq_some_iff.1 (show (headers.get n).head? = some v from hfirst)
  have hcontains : headers.contains n := by
    rw [hheaders.contains_iff, hvs]
    exact List.cons_ne_nil v vs
  rw [(get_firstValues hproper hheaders).2, if_pos hcontains, hvs]
  rfl

/-- Taking the first value of each name is taking all of them exactly if no name has two. -/
theorem firstValues_replaces_iff (hproper : h.Proper) (hheaders : headers.Proper) :
    (∀ n, (firstValues h headers).get n = (h.replaceWith headers).get n) ↔
      ∀ n, (headers.get n).length ≤ 1 := by
  refine forall_congr' fun n => ?_
  rw [(get_firstValues hproper hheaders).2, Headers.get_replaceWith hproper hheaders]
  by_cases hn : headers.contains n
  · rw [if_pos hn, if_pos hn]
    refine ⟨fun htake => ?_, List.take_of_length_le⟩
    have hlength := congrArg List.length htake
    rw [List.length_take] at hlength
    omega
  · rw [if_neg hn, if_neg hn, Headers.get_of_not_contains hn]
    exact iff_of_true rfl (Nat.zero_le 1)

/-- A header authorizer gives a request the first value of each of its names, leaves all else, and
changes nothing more if it is asked again. Options and requests are given all values. It agrees with
them exactly if no name has two. -/
theorem header_replaces_iff (hheaders : headers.Proper) {out : Outgoing}
    (hproper : out.headers.Proper) {o : Options} (ho : o.headers = out.headers) {r : Request}
    (hr : r.headers = out.headers) (s : σ) :
    ∃ out' : Outgoing, authorize (.header headers) out s = (.ok out', s) ∧
      out' = { out with headers := out'.headers } ∧
      (∀ n, out'.headers.get n =
        if headers.contains n then (headers.get n).take 1 else out.headers.get n) ∧
      authorize (.header headers) out' s = (.ok out', s) ∧
      (∀ n, (o.withHeaders headers).headers.get n =
        if headers.contains n then headers.get n else out.headers.get n) ∧
      (r.configure headers).headers = (o.withHeaders headers).headers ∧
      ((∀ n, out'.headers.get n = (o.withHeaders headers).headers.get n) ↔
        ∀ n, (headers.get n).length ≤ 1) := by
  have hmerged : (o.withHeaders headers).headers = out.headers.replaceWith headers := by
    rw [← ho]
    rfl
  have hconfigured : (r.configure headers).headers = out.headers.replaceWith headers := by
    rw [← hr]
    rfl
  have hagain : authorize (.header headers)
      { out with headers := firstValues out.headers headers } s =
        (.ok { out with headers := firstValues out.headers headers }, s) := by
    simp only [authorize, firstValues_firstValues hproper hheaders]
  rw [hmerged, hconfigured]
  exact ⟨{ out with headers := firstValues out.headers headers }, rfl, rfl,
    fun n => (get_firstValues hproper hheaders).2, hagain,
    fun n => Headers.get_replaceWith hproper hheaders, rfl,
    firstValues_replaces_iff hproper hheaders⟩

/-- A tag with two values and an agent with one, for a request that has another agent, a tag and a
language. -/
theorem header_replaces_tags :
    let headers : Headers := .ofFields [(⟨"x-tag"⟩, ⟨[97], false⟩), (⟨"user-agent"⟩, ⟨[98], false⟩),
      (⟨"x-tag"⟩, ⟨[99], true⟩)]
    let own : Headers := .ofFields [(⟨"user-agent"⟩, ⟨[100], false⟩), (⟨"x-tag"⟩, ⟨[101], false⟩),
      (⟨"accept-language"⟩, ⟨[102], false⟩)]
    let out : Outgoing := { (default : Outgoing) with headers := own }
    headers.Proper ∧ own.Proper ∧
      ∃ out' : Outgoing, authorize (.header headers) out () = (.ok out', ()) ∧
        out'.headers.get ⟨"x-tag"⟩ = [⟨[97], false⟩] ∧
        out'.headers.get ⟨"user-agent"⟩ = [⟨[98], false⟩] ∧
        out'.headers.get ⟨"accept-language"⟩ = [⟨[102], false⟩] ∧
        authorize (.header headers) out' () = (.ok out', ()) := by
  intro headers own out
  have hheaders : headers.Proper := Headers.proper_ofFields _
  have hown : out.headers.Proper := Headers.proper_ofFields _
  obtain ⟨out', hauthorize, -, hget, hagain, -⟩ := header_replaces_iff hheaders hown
    (o := { headers := own }) rfl (r := { target := "", headers := own }) rfl ()
  exact ⟨hheaders, hown, out', hauthorize, (hget _).trans (by decide), (hget _).trans (by decide),
    (hget _).trans (by decide), hagain⟩

/-- Of two values a header authorizer loses the second, which options and requests keep. -/
theorem header_not_replaces :
    let headers : Headers := .ofFields [(⟨"x-tag"⟩, ⟨[49], false⟩), (⟨"x-tag"⟩, ⟨[50], false⟩)]
    let url : Url :=
      { scheme := "http", authority := some { host := some (.domain "h.test") }
        path := .segments [""] }
    let out : Outgoing := { method := "GET", url, headers := {}, body := none }
    ∃ out' : Outgoing, authorize (.header headers) out () = (.ok out', ()) ∧
      headers.get ⟨"x-tag"⟩ = [⟨[49], false⟩, ⟨[50], false⟩] ∧
      out'.headers.get ⟨"x-tag"⟩ = [⟨[49], false⟩] ∧
      (Options.withHeaders {} headers).headers.get ⟨"x-tag"⟩ =
        [⟨[49], false⟩, ⟨[50], false⟩] ∧
      (Request.configure { target := "" } headers).headers.get ⟨"x-tag"⟩ =
        [⟨[49], false⟩, ⟨[50], false⟩] := by
  intro headers url out
  exact ⟨_, rfl, by decide, by decide, by decide, by decide⟩

end Credentials

end Courier
