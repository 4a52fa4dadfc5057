import Courier.Proofs.Entity.MediaType
import Courier.Proofs.Json.Fields
import Courier.Proofs.Text.Split
import Courier.Proofs.Text.Utf8

/-!
# Pairs read back from a form

What is written for a byte is read as that byte, whatever comes after it
(`Form.unescape_encodeByte`), and it holds no separator (`Form.encodeByte_safe`). So a text is read
back from what is written for it, a pair from what stands before and after the first equals sign,
and a form from what stands between its ampersands (`Form.decode_print`). No part is empty, since
every pair has its equals sign : a pair of empty texts is not lost. Lists of pairs and tables of
texts come back from the bytes under every content type that names the media type of forms
(`Codec.form_round_trip`).
-/

namespace Courier

namespace Form

open Utf8 (codes)

/-! ## Bytes -/

/-- Bytes with every plus sign replaced by a blank. -/
def spaced (bytes : Bytes) : Bytes :=
  bytes.map fun b => if b = 0x2B then 0x20 else b

/-- The characters of a byte are ASCII, and none of them separates names, values or pairs. -/
theorem encodeByte_safe (b : UInt8) : ∀ c ∈ encodeByte b,
    c.toNat < 0x80 ∧ UInt8.ofNat c.toNat ≠ 0x26 ∧ UInt8.ofNat c.toNat ≠ 0x3D := by
  have hall : (encodeByte b).all fun c =>
      c.toNat < 0x80 ∧ UInt8.ofNat c.toNat ≠ 0x26 ∧ UInt8.ofNat c.toNat ≠ 0x3D := by
    refine Utf8.forall_byte ?_ b
    decide +kernel
  exact fun c hc => of_decide_eq_true (List.all_eq_true.1 hall c hc)

theorem unescape_cons {b : UInt8} (h : b ≠ 0x25) (rest : Bytes) :
    unescape (b :: rest) = b :: unescape rest := by
  rw [unescape]
  rintro _ _ _ rfl
  exact absurd rfl h

/-- A digit is no plus sign, and it is read as the number it stands for. -/
theorem hexByte?_hexCapital {n : Nat} (h : n < 16) :
    UInt8.ofNat (Ascii.hexCapital n).toNat ≠ 0x2B ∧
      hexByte? (UInt8.ofNat (Ascii.hexCapital n).toNat) = some n := by
  revert n
  decide

theorem unescape_percent (b : UInt8) (rest : Bytes) :
    unescape (spaced (codes (percent b)) ++ rest) = b :: unescape rest := by
  have hbyte : b.toNat < 256 := b.toNat_lt
  obtain ⟨hplus, hhigh⟩ := hexByte?_hexCapital (show b.toNat / 16 < 16 by omega)
  obtain ⟨hplus', hlow⟩ := hexByte?_hexCapital (show b.toNat % 16 < 16 by omega)
  have hcodes : spaced (codes (percent b)) = [0x25,
      UInt8.ofNat (Ascii.hexCapital (b.toNat / 16)).toNat,
      UInt8.ofNat (Ascii.hexCapital (b.toNat % 16)).toNat] := by
    simp [spaced, codes, percent, hplus, hplus']
  have hvalue : UInt8.ofNat (b.toNat / 16 * 16 + b.toNat % 16) = b := by
    rw [Nat.div_add_mod', UInt8.ofNat_toNat]
  simp [hcodes, unescape, hhigh, hlow, hvalue]

theorem spaced_plain {b : UInt8} (h : isPlain b) :
    spaced (codes [Char.ofNat b.toNat]) = [b] ∧ b ≠ 0x25 := by
  revert h
  refine Utf8.forall_byte ?_ b
  decide +kernel

/-- What is written for a byte is read as that byte. -/
theorem unescape_encodeByte (b : UInt8) (rest : Bytes) :
    unescape (spaced (codes (encodeByte b)) ++ rest) = b :: unescape rest := by
  unfold encodeByte
  split
  · next hblank =>
    subst hblank
    exact unescape_cons (by decide) rest
  split
  · next hplain =>
    obtain ⟨hcodes, hpercent⟩ := spaced_plain hplain
    rw [hcodes]
    exact unescape_cons hpercent rest
  · exact unescape_percent b rest

/-! ## Texts -/

theorem unescape_flatMap (bytes : Bytes) :
    unescape (spaced (codes (bytes.flatMap encodeByte))) = bytes := by
  induction bytes with
  | nil => rfl
  | cons b bytes ih =>
    have hcodes : spaced (codes ((b :: bytes).flatMap encodeByte)) =
        spaced (codes (encodeByte b)) ++ spaced (codes (bytes.flatMap encodeByte)) := by
      simp [spaced, codes]
    rw [hcodes, unescape_encodeByte, ih]

theorem decodeText_encodeText (s : String) : decodeText (codes (encodeText s)) = s :=
  (congrArg Utf8.lossy (unescape_flatMap (Utf8.encode s))).trans (Utf8.lossy_encode s)

theorem encodeText_safe {s : String} {c : Char} (h : c ∈ encodeText s) :
    c.toNat < 0x80 ∧ UInt8.ofNat c.toNat ≠ 0x26 ∧ UInt8.ofNat c.toNat ≠ 0x3D := by
  obtain ⟨b, -, hb⟩ := List.mem_flatMap.1 h
  exact encodeByte_safe b c hb

theorem equals_not_mem_codes (s : String) : 0x3D ∉ codes (encodeText s) :=
  Utf8.not_mem_codes fun _ hc => (encodeText_safe hc).2.2

theorem amp_not_mem_codes (s : String) : 0x26 ∉ codes (encodeText s) :=
  Utf8.not_mem_codes fun _ hc => (encodeText_safe hc).2.1

/-! ## Pairs -/

theorem codes_encodePair (pair : String × String) : codes (encodePair pair) =
    codes (encodeText pair.1) ++ 0x3D :: codes (encodeText pair.2) := by
  simp [codes, encodePair]

theorem codes_encodePair_ne_nil (pair : String × String) : codes (encodePair pair) ≠ [] := by
  rw [codes_encodePair]
  exact List.append_ne_nil_of_right_ne_nil _ (List.cons_ne_nil _ _)

theorem decodePart_encodePair (pair : String × String) :
    decodePart (codes (encodePair pair)) = pair := by
  rw [codes_encodePair, decodePart, Text.cutAt_append_cons (equals_not_mem_codes pair.1)]
  exact Prod.ext (decodeText_encodeText pair.1) (decodeText_encodeText pair.2)

theorem amp_not_mem_encodePair (pair : String × String) : 0x26 ∉ codes (encodePair pair) := by
  rw [codes_encodePair, List.mem_append, List.mem_cons, not_or, not_or]
  exact ⟨amp_not_mem_codes pair.1, by decide, amp_not_mem_codes pair.2⟩

theorem encodePair_ascii (pair : String × String) : ∀ c ∈ encodePair pair, c.toNat < 0x80 := by
  intro c hc
  rw [encodePair, List.mem_append, List.mem_cons] at hc
  rcases hc with hc | rfl | hc
  · exact (encodeText_safe hc).1
  · decide
  · exact (encodeText_safe hc).1

/-! ## Forms -/

theorem encode_ascii : ∀ (pairs : Pairs), ∀ c ∈ encode pairs, c.toNat < 0x80
  | [], _, hc => by cases hc
  | [pair], c, hc => encodePair_ascii pair c hc
  | pair :: next :: rest, c, hc => by
    rw [encode, List.mem_append, List.mem_cons] at hc
    rcases hc with hc | rfl | hc
    · exact encodePair_ascii pair c hc
    · decide
    · exact encode_ascii (next :: rest) c hc

/-- What is written for a form is read as its pairs. -/
theorem decode_codes : ∀ pairs : Pairs, decode (codes (encode pairs)) = pairs
  | [] => rfl
  | [pair] => by
    rw [encode, decode, Text.splitAt_of_not_mem (amp_not_mem_encodePair pair)]
    simp [codes_encodePair_ne_nil, decodePart_encodePair]
  | pair :: next :: rest => by
    have hcodes : codes (encode (pair :: next :: rest)) =
        codes (encodePair pair) ++ 0x26 :: codes (encode (next :: rest)) := by
      simp [codes, encode]
    have hrest := decode_codes (next :: rest)
    rw [decode] at hrest ⊢
    rw [hcodes, Text.splitAt_append_cons (amp_not_mem_encodePair pair),
      List.filter_cons_of_pos (by simp [codes_encodePair_ne_nil]), List.map_cons, hrest,
      decodePart_encodePair]

theorem encode_print (pairs : Pairs) : Utf8.encode (print pairs) = codes (encode pairs) :=
  Utf8.encode_ofList_of_ascii (encode_ascii pairs)

theorem decode_print (pairs : Pairs) : decode (Utf8.encode (print pairs)) = pairs := by
  rw [encode_print, decode_codes]

theorem codes_ascii (pairs : Pairs) : ∀ b ∈ codes (encode pairs), b < 0x80 := by
  intro b hb
  obtain ⟨c, hc, rfl⟩ := List.mem_map.1 hb
  have hascii := encode_ascii pairs c hc
  rw [UInt8.lt_iff_toNat_lt, Utf8.toNat_ofNat_of_lt (by omega)]
  exact hascii

/-! ## Data -/

/-- A list of pairs as a datum. -/
def datum (pairs : Pairs) : Datum :=
  .sequence (pairs.map fun (k, v) => .tuple [.text k, .text v])

theorem gather_ok (pairs : Pairs) : gather (pairs.map fun pair => .ok [pair]) = .ok pairs := by
  have hall : (pairs.map fun pair => (.ok [pair] : Except EncodeFault Pairs)).mapM id =
      .ok (pairs.map fun pair => [pair]) := by
    rw [List.mapM_map]
    exact List.mapM_pure
  rw [gather, hall]
  exact congrArg Except.ok (List.flatMap_singleton' pairs)

theorem ofDatum_datum (pairs : Pairs) : ofDatum (datum pairs) = .ok pairs := by
  rw [datum, ofDatum, List.map_map]
  exact gather_ok pairs

theorem readEntries_string (pairs : Pairs) :
    readEntries .string pairs = .ok (pairs.map fun (k, v) => (k, .string v)) := by
  induction pairs with
  | nil => rfl
  | cons pair pairs ih =>
    rw [readEntries, readScalar, ih]
    rfl

end Form

/-- A list of pairs is written as a form of ASCII bytes under every content type that names the
media type of forms. Under every other one the bytes are read as the list, and if no name occurs
twice they are read as the table of the pairs too. -/
theorem Codec.form_round_trip {contentType other : String}
    (hname : MediaType.Names contentType MediaType.urlEncoded)
    (hother : MediaType.Names other MediaType.urlEncoded) (pairs : Form.Pairs) :
    ∃ data, encode contentType (Form.datum pairs) = .ok data ∧ (∀ b ∈ data, b < 0x80) ∧
      decode other (.sequence .pair) data =
        .ok (.array (pairs.map fun (k, v) => .array [.string k, .string v])) ∧
      ((pairs.map Prod.fst).Nodup → ∃ fields,
        decode other (.dictionary .string) data = .ok (.object fields) ∧
          fields.Perm (pairs.map fun (k, v) => (k, .string v)) ∧ Json.Ordered fields) := by
  have hkind : kind? contentType = some .form := kind?_eq_some_iff.2 hname
  have hkind' : kind? other = some .form := kind?_eq_some_iff.2 hother
  have hread {shape : Shape} {v : Json} (h : Form.read pairs shape = .ok v) :
      decode other shape (Utf8.encode (Form.print pairs)) = .ok v := by
    rw [decode, hkind']
    dsimp only
    rw [Form.decode_print, h]
    rfl
  refine ⟨Utf8.encode (Form.print pairs), ?_, ?_, hread rfl, fun hnodup => ?_⟩
  · rw [encode, hkind]
    dsimp only
    rw [Form.ofDatum_datum]
    rfl
  · rw [Form.encode_print]
    exact Form.codes_ascii pairs
  · have hkeys : ((pairs.map fun (k, v) => (k, Json.string v)).map Prod.fst).Nodup := by
      simpa [Function.comp_def] using hnodup
    obtain ⟨fields, hobject, hfields⟩ := Json.exists_ofFields hkeys
    refine ⟨fields, hread ?_, hfields⟩
    rw [Form.read, Form.readEntries_string, ← hobject]
    rfl

/-- Empty names and values and the signs that stand between pairs come back. -/
theorem Codec.form_round_trip_signs :
    let contentType := " Application/X-WWW-Form-Urlencoded ; charset=utf-8"
    let other := "application/x-www-form-urlencoded"
    let pairs : Form.Pairs := [("b&=", "1+2 = 100%"), ("", ""), ("é", "&")]
    ∃ data, encode contentType (Form.datum pairs) = .ok data ∧ (∀ b ∈ data, b < 0x80) ∧
      decode other (.sequence .pair) data =
        .ok (.array (pairs.map fun (k, v) => .array [.string k, .string v])) ∧
      ∃ fields, decode other (.dictionary .string) data = .ok (.object fields) ∧
        fields.Perm (pairs.map fun (k, v) => (k, .string v)) ∧ Json.Ordered fields := by
  intro contentType other pairs
  obtain ⟨data, hencode, hascii, hlist, htable⟩ := form_round_trip
    (kind?_eq_some_iff.1 (show kind? contentType = some .form by decide))
    (kind?_eq_some_iff.1 (show kind? other = some .form by decide)) pairs
  exact ⟨data, hencode, hascii, hlist, htable (by decide)⟩

end Courier
