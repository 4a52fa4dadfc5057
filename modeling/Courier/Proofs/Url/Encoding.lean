import Courier.Url.Percent

/-!
# Encoded once

What is written for a character is made of characters that every part of a URL keeps
(`Url.kept_encode`), and characters that a part keeps are written as themselves
(`Url.encode_of_kept`). So what stands in a part is not encoded again when it is read back. A text
without percent signs stands for itself (`Url.unescape_of_not_mem`).
-/

namespace Courier.Url

variable {part : Part} {c d : Char} {cs : List Char}

/-- Characters that a part keeps as they are. -/
def Kept (part : Part) (cs : List Char) : Prop :=
  ∀ c ∈ cs, part.keeps c

theorem keeps_hexCapital (part : Part) {n : Nat} (h : n < 16) :
    part.keeps (Ascii.hexCapital n) := by
  revert n
  cases part <;> decide

theorem kept_percent (part : Part) (b : UInt8) : Kept part (percent b) := by
  have hb : b.toNat < 256 := b.toNat_lt
  have hsign : part.keeps '%' := by cases part <;> decide
  intro c hc
  simp only [percent, List.mem_cons, List.not_mem_nil, or_false] at hc
  rcases hc with rfl | rfl | rfl
  · exact hsign
  · exact keeps_hexCapital part (by omega)
  · exact keeps_hexCapital part (by omega)

/-- What is written for characters is kept. -/
theorem kept_encode (part : Part) (cs : List Char) : Kept part (encode part cs) := by
  intro d hd
  obtain ⟨c, -, hc⟩ := List.mem_flatMap.1 hd
  unfold encodeChar at hc
  split at hc
  · next hkeeps => rwa [List.mem_singleton.1 hc]
  · obtain ⟨b, -, hb⟩ := List.mem_flatMap.1 hc
    exact kept_percent part b d hb

/-- What is written that was not there is kept by every part. -/
theorem mem_encode (h : d ∈ encode part cs) : d ∈ cs ∨ ∀ other : Part, other.keeps d := by
  obtain ⟨c, hc, hd⟩ := List.mem_flatMap.1 h
  unfold encodeChar at hd
  split at hd
  · exact .inl (List.mem_singleton.1 hd ▸ hc)
  · obtain ⟨b, -, hb⟩ := List.mem_flatMap.1 hd
    exact .inr fun other => kept_percent other b d hb

/-- Characters that are kept are written as themselves. -/
theorem encode_of_kept (h : Kept part cs) : encode part cs = cs := by
  induction cs with
  | nil => rfl
  | cons c cs ih =>
    obtain ⟨hc, hcs⟩ := List.forall_mem_cons.1 h
    have hrest : encode part cs = cs := ih hcs
    unfold encode at hrest ⊢
    rw [List.flatMap_cons, hrest, encodeChar, if_pos hc]
    rfl

theorem ne_of_keeps (h : part.keeps c) (hd : part.keeps d = false) : c ≠ d := by
  rintro rfl
  rw [hd] at h
  cases h

theorem not_mem_of_kept (h : Kept part cs) (hd : part.keeps d = false) : d ∉ cs :=
  fun hmem => ne_of_keeps (h d hmem) hd rfl

/-- Every part but a bare one keeps only characters that show. -/
theorem blank_lt_of_keeps (h : part.keeps c) (hpart : part ≠ .plain) : ' ' < c := by
  have hblank : part.keeps ' ' = false := by
    cases part <;> first | decide | exact absurd rfl hpart
  have hle : ' ' ≤ c := by
    simp only [Part.keeps, decide_eq_true_eq] at h
    exact h.1
  exact Char.not_le.1 fun hge => ne_of_keeps h hblank (Char.le_antisymm hge hle)

/-- Without a percent sign nothing is replaced. -/
theorem unescape_of_not_mem (h : '%' ∉ cs) : unescape cs = Utf8.encode (String.ofList cs) := by
  have hplain : unescape cs = cs.flatMap String.utf8EncodeChar := by
    induction cs with
    | nil => rfl
    | cons c cs ih =>
      obtain ⟨hc, hcs⟩ := not_or.1 (mt List.mem_cons.2 h)
      rw [List.flatMap_cons, ← ih hcs, unescape.eq_def]
      split
      · next heq => exact absurd (List.cons.inj heq).1.symm hc
      · next heq =>
        obtain ⟨rfl, rfl⟩ := List.cons.inj heq
        rfl
      · next heq => cases heq
  rw [hplain, Utf8.encode, String.toList_ofList]

end Courier.Url
