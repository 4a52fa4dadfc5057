import Courier.Json.Basic

/-!
# Objects from fields

The fields of an object are in increasing order of their keys (`Json.Ordered`). Putting a field
among ordered ones keeps the order (`Json.Ordered.insert`), and fields with different keys are all
there afterwards (`Json.insert_perm`). So the object of a list of fields with different keys is that
list in order (`Json.exists_ofFields`), and the list itself if it is in order already
(`Json.Ordered.ofFields_eq`).
-/

namespace Courier.Json

variable {key : String} {v : Json} {fields acc : List (String × Json)}

/-- Fields in increasing order of their keys, no key twice. -/
def Ordered (fields : List (String × Json)) : Prop :=
  fields.Pairwise fun f g => f.1 < g.1

instance : DecidablePred Ordered := fun fields =>
  inferInstanceAs (Decidable (fields.Pairwise fun f g => f.1 < g.1))

theorem Ordered.nil : Ordered [] :=
  List.Pairwise.nil

theorem Ordered.nodup (h : Ordered fields) : (fields.map Prod.fst).Nodup :=
  List.pairwise_map.2 (h.imp fun hlt => Std.ne_of_lt hlt)

/-- The order of its fields is the only thing that two orders of one object could differ in. -/
theorem Ordered.eq_of_perm {other : List (String × Json)} (h : Ordered fields)
    (hother : Ordered other) (hperm : fields.Perm other) : fields = other :=
  hperm.eq_of_pairwise (fun _ _ _ _ hlt hgt => absurd hgt (String.lt_asymm hlt)) h hother

theorem mem_insert {f : String × Json} (h : f ∈ insert key v fields) :
    f = (key, v) ∨ f ∈ fields := by
  induction fields with
  | nil => exact .inl (List.mem_singleton.1 h)
  | cons g fields ih =>
    rw [insert] at h
    split at h
    · exact (List.mem_cons.1 h).imp_right (List.mem_cons_of_mem g)
    split at h
    · exact List.mem_cons.1 h
    · rcases List.mem_cons.1 h with rfl | h
      · exact .inr List.mem_cons_self
      · exact (ih h).imp_right (List.mem_cons_of_mem g)

/-- A field put among ordered ones stands in its place. -/
theorem Ordered.insert (h : Ordered fields) : Ordered (Json.insert key v fields) := by
  induction fields with
  | nil => exact List.pairwise_singleton _ _
  | cons g fields ih =>
    obtain ⟨hg, hfields⟩ := List.pairwise_cons.1 h
    rw [Json.insert]
    split
    · next heq => exact List.pairwise_cons.2 ⟨fun f hf => heq ▸ hg f hf, hfields⟩
    split
    · next hlt =>
      refine List.pairwise_cons.2 ⟨fun f hf => ?_, h⟩
      rcases List.mem_cons.1 hf with rfl | hf
      · exact hlt
      · exact String.lt_trans hlt (hg f hf)
    · next hne hlt =>
      refine List.pairwise_cons.2 ⟨fun f hf => ?_, ih hfields⟩
      rcases mem_insert hf with rfl | hf
      · exact Std.lt_of_le_of_ne (String.not_lt.1 hlt) (Ne.symm hne)
      · exact hg f hf

/-- A field with a new key is put among the others. -/
theorem insert_perm (h : key ∉ fields.map Prod.fst) :
    (insert key v fields).Perm ((key, v) :: fields) := by
  induction fields with
  | nil => exact .refl _
  | cons g fields ih =>
    rw [List.map_cons, List.mem_cons, not_or] at h
    rw [insert, if_neg h.1]
    split
    · exact .refl _
    · exact ((ih h.2).cons g).trans (.swap ..)

theorem Ordered.foldl_insert (h : Ordered acc) (fields : List (String × Json)) :
    Ordered (fields.foldl (fun acc (k, v) => Json.insert k v acc) acc) := by
  induction fields generalizing acc with
  | nil => exact h
  | cons f fields ih => exact ih h.insert

theorem foldl_insert_perm (h : ((acc ++ fields).map Prod.fst).Nodup) :
    (fields.foldl (fun acc (k, v) => insert k v acc) acc).Perm (acc ++ fields) := by
  induction fields generalizing acc with
  | nil => simp
  | cons f fields ih =>
    have hmiddle : (acc ++ f :: fields).Perm (f :: acc ++ fields) := List.perm_middle
    have hnew : f.1 ∉ acc.map Prod.fst := by
      have hnodup := (hmiddle.map Prod.fst).nodup_iff.1 h
      rw [List.cons_append, List.map_cons, List.nodup_cons, List.map_append] at hnodup
      exact fun hmem => hnodup.1 (List.mem_append_left _ hmem)
    have hinsert : (insert f.1 f.2 acc ++ fields).Perm (acc ++ f :: fields) :=
      ((insert_perm hnew).append_right fields).trans hmiddle.symm
    exact (ih ((hinsert.map Prod.fst).nodup_iff.2 h)).trans hinsert

/-- The object of fields with different keys has these fields, in order. -/
theorem exists_ofFields (h : (fields.map Prod.fst).Nodup) :
    ∃ sorted, ofFields fields = .object sorted ∧ sorted.Perm fields ∧ Ordered sorted :=
  ⟨_, rfl, foldl_insert_perm h, Ordered.nil.foldl_insert fields⟩

/-- The object of ordered fields has just these. -/
theorem Ordered.ofFields_eq (h : Ordered fields) : ofFields fields = .object fields := by
  obtain ⟨sorted, hobject, hperm, hsorted⟩ := exists_ofFields h.nodup
  rw [hobject, hsorted.eq_of_perm h hperm]

end Courier.Json
