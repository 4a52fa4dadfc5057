import Courier.Redaction
import Courier.Proofs.Header.Merging
import Mathlib.Data.List.Forall2

/-!
# Headers that a dump does not tell apart

Two header maps are veiled from each other if they have the same names with the same values, but for
secrets : a secret may stand for another one of the same length with the same digest
(`Headers.Veiled`). What counts as a secret is left open, since requests have secrets by name and by
mark and responses by name only. Whatever a client does with header maps keeps them veiled, and
dumps of veiled maps are the same (`Headers.Veiled.sanitized_eq`).
-/

namespace Courier

open Header (Name Value)

/-- The values of a name that carries credentials are secrets, with or without a mark. -/
def Redaction.isCredential (name : Name) (_ : Value) : Bool :=
  decide (name ∈ Redaction.credentialNames)

/-- Two values of a name are the same, or they are secrets that have the same length and digest. -/
inductive Header.Value.Veiled (digest : Bytes → Bytes) (secret : Name → Value → Bool)
    (name : Name) : Value → Value → Prop where
  | same (v : Value) : Veiled digest secret name v v
  | masked {v v' : Value} (hsecret : secret name v) (hsecret' : secret name v')
      (hlength : v.bytes.length = v'.bytes.length) (hdigest : digest v.bytes = digest v'.bytes) :
      Veiled digest secret name v v'

/-- Two entries have the same name and values that are veiled one by one. -/
structure Headers.Entry.Veiled (digest : Bytes → Bytes) (secret : Name → Value → Bool)
    (e e' : Headers.Entry) : Prop where
  name : e.name = e'.name
  values : List.Forall₂ (Value.Veiled digest secret e.name) e.values e'.values

/-- Two header maps have entries that are veiled one by one. -/
def Headers.Veiled (digest : Bytes → Bytes) (secret : Name → Value → Bool)
    (h h' : Headers) : Prop :=
  List.Forall₂ (Headers.Entry.Veiled digest secret) h.entries h'.entries

theorem map_eq_of_forall₂ {α β γ : Type} {R : α → β → Prop} {f : α → γ} {g : β → γ}
    (hfg : ∀ a b, R a b → f a = g b) {l : List α} {l' : List β} (h : List.Forall₂ R l l') :
    l.map f = l'.map g := by
  induction h with
  | nil => rfl
  | cons hab _ ih => rw [List.map_cons, List.map_cons, hfg _ _ hab, ih]

theorem map_eq_of_rel {α β γ : Type} {R : α → β → Prop} {f : α → γ} {g : β → γ}
    (hfg : ∀ a b, R a b → f a = g b) {a : Option α} {b : Option β} (h : Option.Rel R a b) :
    a.map f = b.map g := by
  cases h with
  | some hab => exact congrArg some (hfg _ _ hab)
  | none => rfl

theorem isSome_eq_of_rel {α β : Type} {R : α → β → Prop} {a : Option α} {b : Option β}
    (h : Option.Rel R a b) : a.isSome = b.isSome := by
  cases h <;> rfl

variable {digest : Bytes → Bytes} {secret secret' : Name → Value → Bool}

/-! ## Values -/

namespace Header.Value

variable {name : Name} {v v' : Value}

theorem Veiled.mono (h : v.Veiled digest secret name v')
    (hsecret : ∀ v, secret name v → secret' name v) : v.Veiled digest secret' name v' := by
  cases h with
  | same => exact .same v
  | masked hv hv' hlength hdigest =>
    exact .masked (hsecret v hv) (hsecret v' hv') hlength hdigest

/-- A dump shows the same of both. -/
theorem Veiled.shown_eq (h : v.Veiled digest Redaction.isSecret name v') :
    Redaction.shown digest name v = Redaction.shown digest name v' := by
  cases h with
  | same => rfl
  | masked hv hv' hlength hdigest =>
    unfold Redaction.shown Redaction.mask
    rw [if_pos hv, if_pos hv', hlength, hdigest]

theorem Veiled.eq (h : v.Veiled digest secret name v') (hname : ∀ v, secret name v = false) :
    v = v' := by
  cases h with
  | same => rfl
  | masked hv => simp [hname] at hv

theorem veiled_secret (hlength : v.bytes.length = v'.bytes.length)
    (hdigest : digest v.bytes = digest v'.bytes) :
    v.secret.Veiled digest Redaction.isSecret name v'.secret :=
  .masked (by simp [Redaction.isSecret, secret]) (by simp [Redaction.isSecret, secret]) hlength
    hdigest

end Header.Value

/-! ## Header maps -/

namespace Headers

variable {h h' d d' : Headers} {es es' : List Entry} {name n : Name} {v v' : Value}
  {vs vs' : List Value}

theorem Veiled.refl (h : Headers) : h.Veiled digest secret h :=
  List.forall₂_same.2 fun _ _ => ⟨rfl, List.forall₂_same.2 fun v _ => .same v⟩

theorem Veiled.mono (hveiled : h.Veiled digest secret h')
    (hsecret : ∀ n v, secret n v → secret' n v) : h.Veiled digest secret' h' :=
  hveiled.imp fun _ _ he => ⟨he.name, he.values.imp fun _ _ hv => hv.mono (hsecret _)⟩

theorem find?_veiled (hes : List.Forall₂ (Entry.Veiled digest secret) es es') :
    Option.Rel (Entry.Veiled digest secret) (find? n es) (find? n es') := by
  induction hes with
  | nil => exact .none
  | @cons e e' es es' he hes ih =>
    rw [find?_cons, find?_cons, ← he.name]
    split
    · exact .some he
    · exact ih

theorem Veiled.contains_eq (hveiled : h.Veiled digest secret h') (n : Name) :
    h.contains n = h'.contains n :=
  isSome_eq_of_rel (find?_veiled hveiled)

theorem Veiled.get (hveiled : h.Veiled digest secret h') (n : Name) :
    List.Forall₂ (Value.Veiled digest secret n) (h.get n) (h'.get n) := by
  have hfound := find?_veiled (n := n) hveiled
  unfold Headers.get
  cases hfind : find? n h.entries with
  | none =>
    rw [hfind] at hfound
    generalize find? n h'.entries = e' at hfound
    cases hfound
    exact .nil
  | some e =>
    obtain rfl := name_of_find? hfind
    rw [hfind] at hfound
    generalize find? e.name h'.entries = e' at hfound
    cases hfound with
    | some he => exact he.values

/-- A name that has no secrets has the same values in both. -/
theorem Veiled.get_eq (hveiled : h.Veiled digest secret h') (hname : ∀ v, secret n v = false) :
    h.get n = h'.get n := by
  have hvalues := map_eq_of_forall₂ (f := id) (g := id) (fun v v' hv => hv.eq hname)
    (hveiled.get n)
  simpa using hvalues

theorem Veiled.first?_eq (hveiled : h.Veiled digest secret h') (hname : ∀ v, secret n v = false) :
    h.first? n = h'.first? n := by
  rw [first?, first?, hveiled.get_eq hname]

theorem Veiled.first? (hveiled : h.Veiled digest secret h') (n : Name) :
    Option.Rel (Value.Veiled digest secret n) (h.first? n) (h'.first? n) := by
  have hvalues := hveiled.get n
  unfold Headers.first?
  revert hvalues
  generalize h.get n = vs, h'.get n = vs'
  rintro (- | ⟨hv, -⟩)
  · exact .none
  · exact .some hv

theorem Veiled.names_eq (hveiled : h.Veiled digest secret h') : h.names = h'.names :=
  map_eq_of_forall₂ (fun _ _ he => he.name) hveiled

theorem update_veiled {f f' : List Value → List Value}
    (hf : ∀ vs vs', List.Forall₂ (Value.Veiled digest secret name) vs vs' →
      List.Forall₂ (Value.Veiled digest secret name) (f vs) (f' vs'))
    (hes : List.Forall₂ (Entry.Veiled digest secret) es es') :
    List.Forall₂ (Entry.Veiled digest secret) (update name f es) (update name f' es') := by
  induction hes with
  | nil => exact .cons ⟨rfl, hf _ _ .nil⟩ .nil
  | @cons e e' es es' he hes ih =>
    simp only [update, ← he.name]
    split
    · next hname => exact .cons ⟨rfl, hf _ _ (hname ▸ he.values)⟩ hes
    · exact .cons he ih

theorem Veiled.insert (hveiled : h.Veiled digest secret h') (hv : v.Veiled digest secret name v') :
    (h.insert name v).Veiled digest secret (h'.insert name v') :=
  update_veiled (fun _ _ _ => .cons hv .nil) hveiled

theorem Veiled.append (hveiled : h.Veiled digest secret h') (hv : v.Veiled digest secret name v') :
    (h.append name v).Veiled digest secret (h'.append name v') :=
  update_veiled (fun _ _ hvs => List.rel_append hvs (.cons hv .nil)) hveiled

theorem Veiled.appendAll (hveiled : h.Veiled digest secret h')
    (hvs : List.Forall₂ (Value.Veiled digest secret name) vs vs') :
    (h.appendAll name vs).Veiled digest secret (h'.appendAll name vs') := by
  unfold Headers.appendAll
  induction hvs generalizing h h' with
  | nil => exact hveiled
  | cons hv _ ih => exact ih (hveiled.append hv)

theorem Veiled.withDefaults (hveiled : h.Veiled digest secret h')
    (hdefaults : d.Veiled digest secret d') :
    (h.withDefaults d).Veiled digest secret (h'.withDefaults d') := by
  obtain ⟨es⟩ := d
  obtain ⟨es'⟩ := d'
  have hentries : List.Forall₂ (Entry.Veiled digest secret) es es' := hdefaults
  unfold Headers.withDefaults
  clear hdefaults
  induction hentries generalizing h h' with
  | nil => exact hveiled
  | @cons e e' es es' he _ ih =>
    rw [List.foldl_cons, List.foldl_cons, ← hveiled.contains_eq, ← he.name]
    refine ih ?_
    split
    · exact hveiled
    · exact hveiled.appendAll he.values

/-- What a header authorizer sets stays veiled. -/
theorem Veiled.firstValues (hveiled : h.Veiled digest secret h')
    (hset : d.Veiled digest secret d') :
    (Credentials.firstValues h d).Veiled digest secret (Credentials.firstValues h' d') := by
  unfold Credentials.firstValues
  rw [← hset.names_eq]
  generalize d.names = names
  induction names generalizing h h' with
  | nil => exact hveiled
  | cons name names ih =>
    have hfirst := hset.first? name
    rw [List.foldl_cons, List.foldl_cons]
    revert hfirst
    generalize d.first? name = v, d'.first? name = v'
    rintro (hv | -)
    · exact ih (hveiled.insert hv)
    · exact ih hveiled

/-- Dumps of veiled maps are the same. -/
theorem Veiled.sanitized_eq (hveiled : h.Veiled digest Redaction.isSecret h') :
    h.sanitized digest = h'.sanitized digest := by
  unfold sanitized fields
  rw [List.map_flatMap, List.map_flatMap, List.flatMap_def, List.flatMap_def]
  refine congrArg (fun parts => Text.join "\n" (List.flatten parts)) ?_
  refine map_eq_of_forall₂ (fun e e' he => ?_) hveiled
  simp only [List.map_map]
  refine map_eq_of_forall₂ (fun v v' hv => ?_) he.values
  simp only [Function.comp_apply, ← he.name, hv.shown_eq]

end Headers

end Courier
