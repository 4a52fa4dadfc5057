import Courier.Proofs.Digest.Hex
import Courier.Proofs.Text.Digits
import Courier.Proofs.Text.Split
import Courier.Redaction

/-!
# Dumps of headers

A dump of a header map has one line for each value, in the order of the map
(`Headers.lines_sanitized`, `Headers.lines_dump`). Three facts carry this. Joined lines can be taken
apart again, if none of them is empty or broken (`Text.lines_join`). Reading bytes as text makes no
line feed and no carriage return that is not among the bytes : a character of several bytes is above
both, even in an ill-formed run (`Utf8.isLine_lossy`). And neither names and values of headers nor
the digits of a digest have one (`Headers.Sound`).
-/

namespace Courier

/-! ## Text of bytes -/

namespace Utf8

theorem ofNat_ne {n : Nat} {c : Char} (hc : c ≠ Char.ofNat 0) (hn : n ≠ c.toNat) :
    Char.ofNat n ≠ c := by
  intro heq
  by_cases hvalid : n.isValidChar
  · refine hn ?_
    rw [← heq, Char.ofNat, dif_pos hvalid]
    rfl
  · refine hc (heq.symm.trans ?_)
    rw [Char.ofNat, dif_neg hvalid]
    rfl

/-- Whatever byte comes next, the character that is being read has more bits than a line feed and
a carriage return. -/
def State.Wide : State → Prop
  | .start => True
  | .inside _ low _ bits _ => 14 ≤ bits * 64 + (low.toNat - 0x80)

/-- A reader that has met no break, and will meet none in the character that is being read. -/
structure Reader.Unbroken (r : Reader Char) : Prop where
  items : ∀ c ∈ r.items, c ≠ '\n' ∧ c ≠ '\r'
  state : r.state.Wide

variable {b : UInt8} {r : Reader Char} {items : List Char}

theorem replacement_ne_breaks : replacement ≠ '\n' ∧ replacement ≠ '\r' := by
  decide

theorem ne_breaks {n : Nat} (hn : n ≠ 10 ∧ n ≠ 13) : Char.ofNat n ≠ '\n' ∧ Char.ofNat n ≠ '\r' :=
  ⟨ofNat_ne (by decide) hn.1, ofNat_ne (by decide) hn.2⟩

/-- A character of several bytes is wide from its first byte on. -/
theorem wide_of_lead {owed width : Nat} {low high : UInt8} {bits : Nat}
    (h : lead b = .multi owed low high bits) :
    (State.inside (owed - 1) low high bits width).Wide := by
  change 14 ≤ bits * 64 + (low.toNat - 0x80)
  unfold lead at h
  simp only [UInt8.lt_iff_toNat_lt, ← UInt8.toNat_inj, UInt8.reduceToNat] at h
  repeat' split at h
  -- Bytes that announce no more of a character go here.
  all_goals cases h
  all_goals
    simp only [UInt8.reduceToNat]
    omega

theorem Reader.first_unbroken (hb : b.toNat ≠ 10 ∧ b.toNat ≠ 13)
    (hitems : ∀ c ∈ items, c ≠ '\n' ∧ c ≠ '\r') :
    (Reader.first id (fun _ => replacement) items b).Unbroken := by
  unfold Reader.first
  cases hlead : lead b with
  | single => exact ⟨List.forall_mem_cons.2 ⟨ne_breaks hb, hitems⟩, trivial⟩
  | never => exact ⟨List.forall_mem_cons.2 ⟨replacement_ne_breaks, hitems⟩, trivial⟩
  | multi owed low high bits => exact ⟨hitems, wide_of_lead hlead⟩

theorem Reader.push_unbroken (hb : b.toNat ≠ 10 ∧ b.toNat ≠ 13) (hr : r.Unbroken) :
    (Reader.push id (fun _ => replacement) r b).Unbroken := by
  obtain ⟨items, state⟩ := r
  obtain ⟨hitems, hwide⟩ := hr
  cases state with
  | start => exact Reader.first_unbroken hb hitems
  | inside owed low high bits width =>
    simp only [Reader.push]
    split
    · next hrange =>
      have hlow : low.toNat ≤ b.toNat := UInt8.le_iff_toNat_le.1 hrange.1
      have hbits : 14 ≤ bits * 64 + (b.toNat - 0x80) := by
        have : 14 ≤ bits * 64 + (low.toNat - 0x80) := hwide
        omega
      cases owed with
      | zero =>
        have hchar := ne_breaks (n := bits * 64 + (b.toNat - 0x80)) (by omega)
        generalize Char.ofNat _ = c at hchar
        exact ⟨List.forall_mem_cons.2 ⟨hchar, hitems⟩, trivial⟩
      | succ owed =>
        refine ⟨hitems, ?_⟩
        change 14 ≤ (bits * 64 + (b.toNat - 0x80)) * 64 + _
        omega
    · exact Reader.first_unbroken hb (List.forall_mem_cons.2 ⟨replacement_ne_breaks, hitems⟩)

/-- The text of bytes without line feeds and carriage returns is a line. -/
theorem isLine_lossy {bytes : Bytes} (h : ∀ b ∈ bytes, b.toNat ≠ 10 ∧ b.toNat ≠ 13) :
    Text.IsLine (lossy bytes) := by
  have hread (bytes : Bytes) (h : ∀ b ∈ bytes, b.toNat ≠ 10 ∧ b.toNat ≠ 13) :
      ∀ r : Reader Char, r.Unbroken →
        (bytes.foldl (Reader.push id fun _ => replacement) r).Unbroken := by
    induction bytes with
    | nil => exact fun r hr => hr
    | cons b bytes ih =>
      obtain ⟨hb, hbytes⟩ := List.forall_mem_cons.1 h
      exact fun r hr => ih hbytes _ (Reader.push_unbroken hb hr)
  have hitems := (hread bytes h {} ⟨by simp, trivial⟩).items
  refine Text.isLine_ofList fun c hc => ?_
  unfold read at hc
  split at hc
  · exact hitems c (List.mem_reverse.1 hc)
  · rcases List.mem_cons.1 (List.mem_reverse.1 hc) with rfl | hc
    · exact replacement_ne_breaks
    · exact hitems c hc

end Utf8

/-! ## Headers -/

/-- What names and values of headers are made of. -/
structure Headers.Sound (h : Headers) : Prop where
  names : ∀ e ∈ h.entries, ∀ c ∈ e.name.text.toList, Header.isNameChar c
  values : ∀ e ∈ h.entries, ∀ v ∈ e.values, ∀ b ∈ v.bytes, Header.isValueByte b

namespace Redaction

open Header (Name Value)

variable {digest : Bytes → Bytes} {name : Name} {v : Value}

/-- What a dump shows of a value of a name. -/
def line (digest : Bytes → Bytes) (field : Name × Value) : String :=
  field.1.text ++ ": " ++ shown digest field.1 field.2

theorem isLine_name (h : ∀ c ∈ name.text.toList, Header.isNameChar c) : Text.IsLine name.text := by
  constructor
  · intro hmem
    exact absurd (h _ hmem) (by decide)
  · intro hmem
    exact absurd (h _ hmem) (by decide)

theorem isLine_lossy (h : ∀ b ∈ v.bytes, Header.isValueByte b) : Text.IsLine v.lossy := by
  refine Utf8.isLine_lossy fun b hb => ?_
  have hvalue := h b hb
  constructor
  · intro hten
    obtain rfl : b = 10 := UInt8.toNat_inj.1 hten
    exact absurd hvalue (by decide)
  · intro hthirteen
    obtain rfl : b = 13 := UInt8.toNat_inj.1 hthirteen
    exact absurd hvalue (by decide)

theorem isLine_hexDigits (bytes : Bytes) : Text.IsLine (Hex.encode bytes) := by
  have hpair (b : UInt8) : ∀ c ∈ Hex.ofByte b, c ≠ '\n' ∧ c ≠ '\r' :=
    Hex.forall_mem_ofByte (by decide) b
  refine Text.isLine_ofList fun c hc => ?_
  obtain ⟨b, -, hb⟩ := List.mem_flatMap.1 hc
  exact hpair b c hb

theorem isLine_toString (n : Nat) : Text.IsLine (toString n) :=
  Text.isLine_of_forall_mem (Natural.forall_mem_toString (by decide) n)

theorem isLine_mask (secret : Bytes) : Text.IsLine (mask digest secret) := by
  unfold mask
  have hbefore : Text.IsLine "<apiclient: redacted " := ⟨by decide, by decide⟩
  have hbetween : Text.IsLine " bytes; SHA256=" := ⟨by decide, by decide⟩
  have hafter : Text.IsLine ">" := ⟨by decide, by decide⟩
  exact (((hbefore.append (isLine_toString _)).append hbetween).append
    (isLine_hexDigits _)).append hafter

theorem isLine_line (hname : ∀ c ∈ name.text.toList, Header.isNameChar c)
    (hvalue : ∀ b ∈ v.bytes, Header.isValueByte b) : Text.IsLine (line digest (name, v)) := by
  have hshown : Text.IsLine (shown digest name v) := by
    unfold shown
    split
    · exact isLine_mask _
    · exact isLine_lossy hvalue
  have hcolon : Text.IsLine ": " := ⟨by decide, by decide⟩
  exact ((isLine_name hname).append hcolon).append hshown

theorem line_ne_empty (field : Name × Value) : line digest field ≠ "" := by
  simp [line]

end Redaction

namespace Headers

variable {h : Headers}

theorem Sound.isLine (hsound : h.Sound) (digest : Bytes → Bytes) :
    ∀ field ∈ h.fields, Text.IsLine (Redaction.line digest field) := by
  intro field hfield
  obtain ⟨e, he, hmem⟩ := List.mem_flatMap.1 hfield
  obtain ⟨v, hv, rfl⟩ := List.mem_map.1 hmem
  exact Redaction.isLine_line (hsound.names e he) (hsound.values e he v hv)

/-- A header map is shown with one line for each value, in its order. -/
theorem lines_sanitized (hsound : h.Sound) (digest : Bytes → Bytes) :
    Text.lines (h.sanitized digest) = h.fields.map (Redaction.line digest) := by
  refine Text.lines_join fun part hpart => ?_
  obtain ⟨field, hfield, rfl⟩ := List.mem_map.1 hpart
  exact ⟨hsound.isLine digest field hfield, Redaction.line_ne_empty field⟩

/-- A dump has a head and one line for each value, in the order of the map. -/
theorem lines_dump (hsound : h.Sound) (digest : Bytes → Bytes) {what mark : String}
    (hwhat : Text.IsLine what) (hmark : Text.IsLine mark) :
    Text.lines (what ++ " headers:\n" ++ Redaction.indent mark (h.sanitized digest)) =
      (what ++ " headers:") :: h.fields.map fun field => mark ++ Redaction.line digest field := by
  have hhead : Text.IsLine (what ++ " headers:") := hwhat.append ⟨by decide, by decide⟩
  have hsplit (rest : String) :
      what ++ " headers:\n" ++ rest = what ++ " headers:" ++ "\n" ++ rest := by
    have hmark : " headers:\n" = " headers:" ++ "\n" := rfl
    rw [hmark, ← String.append_assoc]
  rw [hsplit, Text.lines_append hhead, Redaction.indent, lines_sanitized hsound, List.map_map,
    Text.lines_join]
  · rfl
  · intro part hpart
    obtain ⟨field, hfield, rfl⟩ := List.mem_map.1 hpart
    refine ⟨hmark.append (hsound.isLine digest field hfield), ?_⟩
    simp [Redaction.line_ne_empty]

end Headers

end Courier
