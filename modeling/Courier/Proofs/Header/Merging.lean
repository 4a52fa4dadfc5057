import Courier.Authorizer
import Mathlib.Data.List.Basic

/-!
# Layers of headers

A header map is proper if no name stands in it twice and each name has a value. Maps that are built
by appending are proper (`Headers.proper_ofFields`), and what merges proper maps makes proper ones.

A map has `Headers.Layers` if it has of each name exactly the values that the first of them has
which has the name, and no other name. Replacing puts a layer on top
(`Headers.Layers.replaceWith`), as credentials do (`Headers.Layers.authorize`), and defaults
are put below (`Headers.Layers.withDefaults`). All of these write one entry after the other, so
one lemma serves them (`Headers.get_foldl`).
-/

namespace Courier

open Header (Name Value)

namespace Headers

variable {h other : Headers} {name n : Name} {v : Value} {vs : List Value} {e : Entry}
  {es : List Entry}

/-! ## Entries -/

/-- No name stands in a map twice, and each has a value. -/
structure Proper (h : Headers) : Prop where
  nodup : h.names.Nodup
  filled : ∀ e ∈ h.entries, e.values ≠ []

theorem find?_cons :
    find? n (e :: es) = if e.name = n then some e else find? n es := by
  by_cases hn : e.name = n <;> simp [find?, hn]

theorem name_of_find? (hfind : find? n es = some e) : e.name = n := by
  simpa using List.find?_some hfind

/-- An entry is found under its name if no other has it. -/
theorem find?_of_mem (hnodup : (es.map Entry.name).Nodup) (he : e ∈ es) :
    find? e.name es = some e := by
  induction es with
  | nil => cases he
  | cons e' es ih =>
    obtain ⟨hfresh, hnodup⟩ := List.nodup_cons.1 hnodup
    rw [find?_cons]
    rcases List.mem_cons.1 he with rfl | he
    · exact if_pos rfl
    · have hne : e'.name ≠ e.name := fun heq => hfresh (heq ▸ List.mem_map_of_mem he)
      rw [if_neg hne, ih hnodup he]

theorem find?_update (f : List Value → List Value) :
    find? n (update name f es) =
      if n = name then some ⟨name, f (((find? name es).map Entry.values).getD [])⟩
      else find? n es := by
  by_cases hn : n = name
  · subst hn
    induction es with
    | nil => simp [update, find?]
    | cons e es ih =>
      by_cases he : e.name = n
      · simp [update, find?_cons, he]
      · simpa [update, find?_cons, he] using ih
  · have hne : ¬name = n := fun heq => hn heq.symm
    rw [if_neg hn]
    induction es with
    | nil => simp [update, find?, hne]
    | cons e es ih =>
      by_cases he : e.name = name
      · simp [update, find?_cons, he, hne]
      · simp [update, find?_cons, he, ih]

/-- A name keeps its place when it is given other values, and a new name comes last. -/
theorem map_name_update (f : List Value → List Value) :
    (update name f es).map Entry.name =
      if name ∈ es.map Entry.name then es.map Entry.name else es.map Entry.name ++ [name] := by
  induction es with
  | nil => rfl
  | cons e es ih =>
    by_cases he : e.name = name
    · simp [update, he]
    · have hne : name ≠ e.name := fun heq => he heq.symm
      simp only [update, if_neg he, List.map_cons, ih, List.mem_cons, hne, false_or]
      split <;> rfl

theorem nodup_update (f : List Value → List Value) (hnodup : (es.map Entry.name).Nodup) :
    ((update name f es).map Entry.name).Nodup := by
  rw [map_name_update]
  split
  · exact hnodup
  · next hnew =>
    refine List.nodup_append.2 ⟨hnodup, by simp, fun a ha b hb => ?_⟩
    rw [List.mem_singleton.1 hb]
    exact fun heq => hnew (heq ▸ ha)

theorem values_update {f : List Value → List Value} (hf : ∀ vs, f vs ≠ [])
    (hfilled : ∀ e ∈ es, e.values ≠ []) : ∀ e ∈ update name f es, e.values ≠ [] := by
  induction es with
  | nil => simpa [update] using hf []
  | cons e es ih =>
    obtain ⟨hfirst, hrest⟩ := List.forall_mem_cons.1 hfilled
    unfold update
    split
    · exact List.forall_mem_cons.2 ⟨hf _, hrest⟩
    · exact List.forall_mem_cons.2 ⟨hfirst, ih hrest⟩

theorem Proper.update {f : List Value → List Value} (hproper : h.Proper) (hf : ∀ vs, f vs ≠ []) :
    Proper ⟨Headers.update name f h.entries⟩ :=
  ⟨nodup_update f hproper.nodup, values_update hf hproper.filled⟩

/-! ## Taking a name out -/

/-- Taking a name out leaves the other names, in another order. -/
theorem swapOut_perm {last : Entry} (hlast : es.getLast? = some last)
    (hnodup : (es.map Entry.name).Nodup) :
    (swapOut name last es).Perm (es.filter (·.name ≠ name)) := by
  induction es with
  | nil => cases hlast
  | cons e es ih =>
    obtain ⟨hfresh, hnodup⟩ := List.nodup_cons.1 hnodup
    cases es with
    | nil =>
      by_cases he : e.name = name <;> simp [swapOut, he]
    | cons e' es =>
      rw [List.getLast?_cons_cons] at hlast
      by_cases he : e.name = name
      · have hrest : (e' :: es).filter (·.name ≠ name) = e' :: es :=
          List.filter_eq_self.2 fun k hk => decide_eq_true fun heq : k.name = name =>
            hfresh (he.trans heq.symm ▸ List.mem_map_of_mem hk)
        have hsplit : (e' :: es).dropLast ++ [last] = e' :: es :=
          List.dropLast_append_getLast? last hlast
        rw [List.filter_cons_of_neg (by simpa using he), hrest]
        simp only [swapOut, if_pos he]
        exact (List.perm_append_singleton last _).symm.trans (.of_eq hsplit)
      · rw [List.filter_cons_of_pos (by simpa using he)]
        simp only [swapOut, if_neg he]
        exact (ih hlast hnodup).cons e

theorem find?_perm {es' : List Entry} (hperm : es.Perm es') (hnodup : (es.map Entry.name).Nodup) :
    find? n es = find? n es' := by
  have hnodup' : (es'.map Entry.name).Nodup := (hperm.map _).nodup_iff.1 hnodup
  cases hfind : find? n es with
  | some e =>
    obtain rfl := name_of_find? hfind
    exact (find?_of_mem hnodup' (hperm.subset (List.mem_of_find?_eq_some hfind))).symm
  | none =>
    have hnone := List.find?_eq_none.1 hfind
    exact (List.find?_eq_none.2 fun e he => hnone e (hperm.symm.subset he)).symm

theorem get_eq : h.get n = ((find? n h.entries).map Entry.values).getD [] := by
  unfold get
  cases find? n h.entries <;> rfl

/-- A proper map has the names that have values. -/
theorem Proper.contains_iff (hproper : h.Proper) : h.contains n ↔ h.get n ≠ [] := by
  rw [get_eq, contains]
  cases hfind : find? n h.entries with
  | none => simp
  | some e => simpa using hproper.filled e (List.mem_of_find?_eq_some hfind)

theorem get_of_not_contains (hcontains : ¬h.contains n) : h.get n = [] := by
  rw [contains, Option.not_isSome_iff_eq_none] at hcontains
  rw [get_eq, hcontains]
  rfl

/-! ## Single changes -/

theorem get_update (f : List Value → List Value) :
    get ⟨update name f h.entries⟩ n = if n = name then f (h.get name) else h.get n := by
  rw [get_eq, find?_update]
  split
  · rw [get_eq]
    rfl
  · rw [get_eq]

@[simp] theorem get_insert : (h.insert name v).get n = if n = name then [v] else h.get n :=
  get_update _

@[simp] theorem get_append :
    (h.append name v).get n = if n = name then h.get name ++ [v] else h.get n :=
  get_update _

theorem Proper.insert (hproper : h.Proper) : (h.insert name v).Proper :=
  hproper.update (by simp)

theorem Proper.append (hproper : h.Proper) : (h.append name v).Proper :=
  hproper.update (by simp)

theorem Proper.empty : Headers.empty.Proper :=
  ⟨List.nodup_nil, by simp [Headers.empty]⟩

theorem Proper.appendAll (hproper : h.Proper) : (h.appendAll name vs).Proper := by
  unfold Headers.appendAll
  induction vs generalizing h with
  | nil => exact hproper
  | cons v vs ih => exact ih hproper.append

theorem get_appendAll :
    (h.appendAll name vs).get n = if n = name then h.get name ++ vs else h.get n := by
  unfold appendAll
  induction vs generalizing h with
  | nil => by_cases hn : n = name <;> simp [hn]
  | cons v vs ih =>
    rw [List.foldl_cons, ih]
    by_cases hn : n = name <;> simp [hn]

/-- A map that is built by appending is proper. -/
theorem proper_ofFields (fields : List (Name × Value)) : (ofFields fields).Proper := by
  unfold ofFields
  generalize hstart : Headers.empty = start
  have hproper : start.Proper := hstart ▸ .empty
  clear hstart
  induction fields generalizing start with
  | nil => exact hproper
  | cons field fields ih => exact ih _ hproper.append

theorem remove_perm (hproper : h.Proper) :
    (h.remove name).entries.Perm (h.entries.filter (·.name ≠ name)) := by
  unfold remove
  cases hlast : h.entries.getLast? with
  | none => simp [List.getLast?_eq_none_iff.1 hlast]
  | some last => exact swapOut_perm hlast hproper.nodup

theorem Proper.remove (hproper : h.Proper) : (h.remove name).Proper := by
  have hperm : (h.remove name).entries.Perm _ := remove_perm hproper
  refine ⟨(hperm.map _).nodup_iff.2 ?_, fun e he => ?_⟩
  · exact hproper.nodup.sublist (List.filter_sublist.map _)
  · exact hproper.filled e (List.mem_of_mem_filter (hperm.subset he))

theorem get_remove (hproper : h.Proper) :
    (h.remove name).get n = if n = name then [] else h.get n := by
  rw [get_eq, find?_perm (remove_perm hproper) hproper.remove.nodup]
  split
  · next hn =>
    have hnone : find? n (h.entries.filter (·.name ≠ name)) = none :=
      List.find?_eq_none.2 fun e he => by
        have hne := List.of_mem_filter he
        simp_all
    rw [hnone]
    rfl
  · next hn =>
    have hsame : find? n (h.entries.filter (·.name ≠ name)) = find? n h.entries := by
      unfold find?
      rw [List.find?_filter]
      congr 1
      funext e
      by_cases he : e.name = n <;> simp [he, hn]
    rw [hsame, get_eq]

/-! ## Writing one entry after the other -/

/-- A step that gives a name the values that `merge` makes of those it has and those of an
entry. -/
structure Writes (merge : List Value → List Value → List Value) (step : Headers → Headers)
    (e : Entry) : Prop where
  proper : ∀ {h}, h.Proper → (step h).Proper
  get : ∀ {h}, h.Proper → ∀ n,
    (step h).get n = if n = e.name then merge (h.get n) e.values else h.get n

/-- Entries with different names are written independently of each other. -/
theorem get_foldl {merge : List Value → List Value → List Value}
    {step : Headers → Entry → Headers} (hwrites : ∀ e ∈ es, Writes merge (step · e) e)
    (hnodup : (es.map Entry.name).Nodup) (hproper : h.Proper) :
    (es.foldl step h).Proper ∧ ∀ n, (es.foldl step h).get n =
      match find? n es with
      | some e => merge (h.get n) e.values
      | none => h.get n := by
  induction es generalizing h with
  | nil => exact ⟨hproper, fun n => rfl⟩
  | cons e es ih =>
    obtain ⟨hfirst, hrest⟩ := List.forall_mem_cons.1 hwrites
    obtain ⟨hfresh, hnodup⟩ := List.nodup_cons.1 hnodup
    obtain ⟨hproper', hget⟩ := ih hrest hnodup (hfirst.proper hproper)
    refine ⟨hproper', fun n => ?_⟩
    rw [List.foldl_cons, hget, hfirst.get hproper, find?_cons]
    by_cases hn : e.name = n
    · have hnone : find? n es = none := List.find?_eq_none.2 fun e' he' => by
        simpa using fun heq : e'.name = n => hfresh (hn.trans heq.symm ▸ List.mem_map_of_mem he')
      simp [hn, hnone]
    · have hne : ¬n = e.name := fun heq => hn heq.symm
      simp only [if_neg hn, if_neg hne]

/-! ## Layers -/

/-- The values of a name in the first of some layers that has the name. -/
def layered (layers : List Headers) (name : Name) : List Value :=
  match layers.find? (·.contains name) with
  | some layer => layer.get name
  | none => []

/-- A map has of each name what its layers have, and no other names. -/
structure Layers (h : Headers) (layers : List Headers) : Prop where
  proper : h.Proper
  get : ∀ name, h.get name = layered layers name
  names : ∀ name, h.contains name ↔ ∃ layer ∈ layers, layer.contains name

variable {h' : Headers} {ls : List Headers}

theorem Proper.layers (hproper : h.Proper) : h.Layers [h] := by
  refine ⟨hproper, fun n => ?_, by simp⟩
  by_cases hn : h.contains n
  · simp [layered, hn]
  · simp [layered, hn, get_of_not_contains hn]

/-- A layer is put on top. -/
theorem Layers.over (hlayers : h.Layers ls) (hproper : h'.Proper) (hother : other.Proper)
    (hget : ∀ n, h'.get n = if other.contains n then other.get n else h.get n) :
    h'.Layers (other :: ls) := by
  refine ⟨hproper, fun n => ?_, fun n => ?_⟩
  · rw [hget, hlayers.get, layered, layered, List.find?_cons]
    cases other.contains n <;> rfl
  · rw [hproper.contains_iff, hget, List.exists_mem_cons_iff, ← hlayers.names,
      hlayers.proper.contains_iff]
    by_cases hn : other.contains n
    · simpa [hn] using hother.contains_iff.1 hn
    · simp [hn]

/-- A layer without headers makes no difference. -/
theorem Layers.over_empty (hlayers : h.Layers ls) : h.Layers (.empty :: ls) :=
  hlayers.over hlayers.proper .empty fun _ => rfl

/-- A layer is put below. -/
theorem Layers.under (hlayers : h.Layers ls) (hproper : h'.Proper) (hother : other.Proper)
    (hget : ∀ n, h'.get n = if h.contains n then h.get n else other.get n) :
    h'.Layers (ls ++ [other]) := by
  refine ⟨hproper, fun n => ?_, fun n => ?_⟩
  · rw [hget, layered, List.find?_append]
    by_cases hn : h.contains n
    · obtain ⟨layer, hlayer, hcontains⟩ := (hlayers.names n).1 hn
      have hsome : (ls.find? (·.contains n)).isSome :=
        List.find?_isSome.2 ⟨layer, hlayer, hcontains⟩
      obtain ⟨found, hfound⟩ := Option.isSome_iff_exists.1 hsome
      rw [if_pos hn, hlayers.get, layered, hfound]
      rfl
    · have hnone : ls.find? (·.contains n) = none :=
        List.find?_eq_none.2 fun layer hlayer hcontains =>
          hn ((hlayers.names n).2 ⟨layer, hlayer, hcontains⟩)
      rw [if_neg hn, hnone, Option.none_or]
      by_cases hother : other.contains n
      · simp [hother]
      · simp [hother, get_of_not_contains hother]
  · rw [hproper.contains_iff, hget]
    by_cases hn : h.contains n
    · obtain ⟨layer, hlayer, hcontains⟩ := (hlayers.names n).1 hn
      rw [if_pos hn]
      exact iff_of_true (hlayers.proper.contains_iff.1 hn)
        ⟨layer, List.mem_append_left _ hlayer, hcontains⟩
    · have hnone : ¬∃ layer ∈ ls, layer.contains n := fun hex => hn ((hlayers.names n).2 hex)
      rw [if_neg hn, ← hother.contains_iff]
      constructor
      · exact fun hcontains => ⟨other, by simp, hcontains⟩
      · rintro ⟨layer, hlayer, hcontains⟩
        rcases List.mem_append.1 hlayer with hlayer | hlayer
        · exact absurd ⟨layer, hlayer, hcontains⟩ hnone
        · rwa [List.mem_singleton.1 hlayer] at hcontains

/-- What overwrites the names of a map puts this map on top. -/
theorem Layers.overwrite {step : Headers → Entry → Headers} (hlayers : h.Layers ls)
    (hother : other.Proper)
    (hwrites : ∀ e ∈ other.entries, Writes (fun _ vs => vs) (step · e) e) :
    (other.entries.foldl step h).Layers (other :: ls) := by
  obtain ⟨hproper, hget⟩ := get_foldl hwrites hother.nodup hlayers.proper
  refine hlayers.over hproper hother fun n => ?_
  rw [hget, contains, get_eq (h := other)]
  cases find? n other.entries <;> rfl

theorem Layers.replaceWith (hlayers : h.Layers ls) (hother : other.Proper) :
    (h.replaceWith other).Layers (other :: ls) := by
  refine hlayers.overwrite hother fun e _ => ⟨fun hproper => hproper.remove.appendAll, ?_⟩
  intro h hproper n
  rw [get_appendAll, get_remove hproper, get_remove hproper, if_pos rfl, List.nil_append]
  split <;> rfl

theorem Layers.insert (hlayers : h.Layers ls) :
    (h.insert name v).Layers (Headers.empty.insert name v :: ls) := by
  refine hlayers.over hlayers.proper.insert Proper.empty.insert fun n => ?_
  have hcontains : (Headers.empty.insert name v).contains n ↔ n = name := by
    by_cases hn : name = n
    · simp [Headers.empty, Headers.insert, Headers.update, contains, find?, hn]
    · simp [Headers.empty, Headers.insert, Headers.update, contains, find?, hn, eq_comm (a := n)]
  by_cases hn : n = name
  · rw [if_pos (hcontains.2 hn), get_insert, get_insert, if_pos hn, if_pos hn]
  · rw [if_neg fun h => hn (hcontains.1 h), get_insert, if_neg hn]

theorem Layers.withDefaults (hlayers : h.Layers ls) (hother : other.Proper) :
    (h.withDefaults other).Layers (ls ++ [other]) := by
  have hwrites (e : Entry) : Writes (fun old vs => if old = [] then vs else old)
      (fun h => if h.contains e.name then h else h.appendAll e.name e.values) e := by
    refine ⟨fun {h} hproper => ?_, fun {h} hproper n => ?_⟩
    · split
      · exact hproper
      · exact hproper.appendAll
    · by_cases hcontains : h.contains e.name
      · have hfilled := hproper.contains_iff.1 hcontains
        rw [if_pos hcontains]
        split
        · next hn => rw [hn, if_neg hfilled]
        · rfl
      · rw [if_neg hcontains, get_appendAll, get_of_not_contains hcontains, List.nil_append]
        split
        · next hn => rw [hn, get_of_not_contains hcontains, if_pos rfl]
        · rfl
  obtain ⟨hproper, hget⟩ := get_foldl (fun e _ => hwrites e) hother.nodup hlayers.proper
  refine hlayers.under hproper hother fun n => (hget n).trans ?_
  rw [get_eq (h := other)]
  by_cases hn : h.contains n
  · have hfilled := hlayers.proper.contains_iff.1 hn
    rw [if_pos hn]
    cases find? n other.entries <;> simp [hfilled]
  · rw [if_neg hn, get_of_not_contains hn]
    cases find? n other.entries <;> rfl

end Headers

/-! ## Credentials -/

namespace Credentials

variable {σ : Type}

/-- A header authorizer with one value for each name. -/
def Single : Credentials σ → Prop
  | .header headers => headers.Proper ∧ ∀ e ∈ headers.entries, e.values.length = 1
  | _ => True

/-- The text that credentials put under the name of authorization in a world, if they have one. -/
def text? (c : Credentials σ) (w : σ) : Option String :=
  match c with
  | .header _ | .query _ => none
  | .basic username password =>
    some ("Basic " ++ Base64.encode (Utf8.encode (username ++ ":" ++ password)))
  | .bearer token => some ("Bearer " ++ token)
  | .oauth source =>
    match (source w).1 with
    | .ok token => some (token.scheme ++ " " ++ token.text)
    | .error _ => none

/-- The headers that credentials set in a world. -/
def layer (c : Credentials σ) (w : σ) : Headers :=
  match c with
  | .header headers => headers
  | c =>
    match (c.text? w).bind Value.ofText? with
    | some v => Headers.empty.insert Header.authorization v.secret
    | none => .empty

variable {c : Credentials σ} {r r' : Outgoing} {w : σ} {ls : List Headers}

/-- The values of a header authorizer are put in the place of those that a request has. -/
theorem layers_firstValues {h headers : Headers} (hproper : headers.Proper)
    (hsingle : ∀ e ∈ headers.entries, e.values.length = 1) (hlayers : h.Layers ls) :
    (firstValues h headers).Layers (headers :: ls) := by
  unfold firstValues Headers.names
  rw [List.foldl_map]
  refine hlayers.overwrite hproper fun e he => ?_
  obtain ⟨v, hv⟩ := List.length_eq_one_iff.1 (hsingle e he)
  have hfirst : headers.first? e.name = some v := by
    rw [Headers.first?, Headers.get_eq, Headers.find?_of_mem hproper.nodup he]
    simp [hv]
  simp only [hfirst]
  exact ⟨fun hproper => hproper.insert, fun _ n => by rw [Headers.get_insert, hv]⟩

theorem layers_authorized {text : String} (hlayers : r.headers.Layers ls)
    (h : authorized r text = .ok r') :
    ∃ v, Header.Value.ofText? text = some v ∧
      r' = { r with headers := r.headers.insert Header.authorization v.secret } ∧
      r'.headers.Layers (Headers.empty.insert Header.authorization v.secret :: ls) := by
  unfold authorized at h
  cases hv : Header.Value.ofText? text with
  | none => simp [hv, Answer.fail] at h
  | some v =>
    simp only [hv, Except.ok.injEq] at h
    subst h
    exact ⟨v, rfl, rfl, hlayers.insert⟩

/-- Credentials are a layer above the headers of a request, and leave its method and its body. -/
theorem layers_authorize (hsingle : c.Single) (hlayers : r.headers.Layers ls)
    (h : (c.authorize r w).1 = .ok r') :
    r'.headers.Layers (c.layer w :: ls) ∧ r'.method = r.method ∧ r'.body = r.body := by
  have htext {text : String} (htext : c.text? w = some text) (hheader : ∀ h, c ≠ .header h)
      (h : authorized r text = .ok r') :
      r'.headers.Layers (c.layer w :: ls) ∧ r'.method = r.method ∧ r'.body = r.body := by
    obtain ⟨v, hv, rfl, hlayers'⟩ := layers_authorized hlayers h
    have hlayer : c.layer w = Headers.empty.insert Header.authorization v.secret := by
      cases c with
      | header headers => exact absurd rfl (hheader headers)
      | _ => simp only [layer, htext, Option.bind_some, hv]
    exact ⟨hlayer ▸ hlayers', rfl, rfl⟩
  cases c with
  | header headers =>
    cases h
    exact ⟨layers_firstValues hsingle.1 hsingle.2 hlayers, rfl, rfl⟩
  | query params =>
    cases h
    exact ⟨hlayers.over_empty, rfl, rfl⟩
  | basic | bearer =>
    simp only [authorize] at h
    exact htext rfl (by simp) h
  | oauth source =>
    unfold authorize at h
    rcases hsource : source w with ⟨stop | token, w'⟩
    · simp [hsource] at h
    · simp only [hsource] at h
      exact htext (by simp only [text?, hsource]) (by simp) h

end Credentials

end Courier
