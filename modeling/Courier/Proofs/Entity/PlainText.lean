import Courier.Proofs.Json.RoundTrip

/-!
# Scalars read back from plain text

Plain text carries a text as it is, and reading takes it as JSON first. A text that between blanks
is the JSON text of another one spells that (`Text.Spells`), and it is read as what it spells. It
has quotes that the other lacks (`Text.Spells.length_lt`), so it is never read as itself. Every
other text is, and so are truth values and integers of 64 bits (`Codec.plain_text_round_trip`). A
text without a quote spells nothing (`Text.Spells.quote_mem`), but every text is spelled by some
text (`Text.spells_writeText`).
-/

namespace Courier

open Json (Document)

/-! ## Texts that spell others -/

namespace Json.Document

open Utf8 (Symbol)

variable {cs rest : List Symbol} {fuel : Nat} {s : String}

/-- A text that has been read began with a quote. -/
theorem exists_of_value_string (h : value fuel cs = some (.string (some s), rest)) :
    ∃ body, skip cs = some '"' :: body ∧ s.length < body.length := by
  cases fuel with
  | zero => cases h
  | succ fuel =>
    rw [value] at h
    split at h
    · cases h
    · cases h
    · cases h
    · next body hskip =>
      obtain ⟨⟨read, rest'⟩, htext, hread⟩ := Option.map_eq_some_iff.1 h
      cases hread
      have hlength := text_length htext
      have hnone : Spelled.length (some []) = 0 := rfl
      exact ⟨body, hskip, by omega⟩
    · split at h
      · cases h
      · obtain ⟨_, _, hread⟩ := Option.map_eq_some_iff.1 h
        cases hread
    · split at h
      · cases h
      · obtain ⟨_, _, hread⟩ := Option.map_eq_some_iff.1 h
        cases hread
    · obtain ⟨_, _, hread⟩ := Option.map_eq_some_iff.1 h
      cases hread

theorem exists_of_parse?_string (h : parse? cs = some (.string (some s))) :
    ∃ body, skip cs = some '"' :: body ∧ s.length < body.length := by
  unfold parse? at h
  split at h
  · next hvalue =>
    split at h
    · cases h
      exact exists_of_value_string hvalue
    · cases h
  · cases h

theorem parse?_writeText (s : String) :
    parse? ((writeText s).map some) = some (.string (some s)) :=
  parse?_of_value (value_string s)

theorem parse?_toString (n : Int) :
    parse? ((toString n).toList.map some) = some (.number (.ofInt n)) :=
  parse?_of_value (value_integer n ends_nil)

end Json.Document

namespace Text

variable {s t : String}

/-- Between blanks, `s` is the JSON text of the text `t`. -/
def Spells (s t : String) : Prop :=
  Document.parse? ((trimChars s.toList).map some) = some (.string (some t))

theorem trimChars_sublist (cs : List Char) : (trimChars cs).Sublist cs := by
  obtain ⟨before, after, hcs, -, -⟩ := exists_trimChars cs
  conv => rhs; rw [hcs]
  exact (List.sublist_append_right before _).trans (List.sublist_append_left _ after)

theorem Spells.exists_sublist (h : Spells s t) :
    ∃ body, (some '"' :: body).Sublist (s.toList.map some) ∧ t.length < body.length := by
  obtain ⟨body, hskip, hlength⟩ := Document.exists_of_parse?_string h
  refine ⟨body, ?_, hlength⟩
  rw [← hskip]
  exact (List.dropWhile_sublist _).trans ((trimChars_sublist s.toList).map some)

theorem Spells.quote_mem (h : Spells s t) : '"' ∈ s.toList := by
  obtain ⟨body, hbody, -⟩ := h.exists_sublist
  have hmem : some '"' ∈ s.toList.map some := hbody.subset List.mem_cons_self
  simpa using hmem

/-- A text that spells another one is longer than it. -/
theorem Spells.length_lt (h : Spells s t) : t.length < s.length := by
  obtain ⟨body, hbody, hlength⟩ := h.exists_sublist
  have hbound := hbody.length_le
  rw [List.length_cons, List.length_map, String.length_toList] at hbound
  omega

theorem spells_writeText (t : String) : Spells (String.ofList (Json.writeText t)) t := by
  have htrimmed : IsTrimmed (Json.writeText t) := by
    have hquote : isBlank '"' = false := by decide
    refine ⟨by simp [Json.writeText, hquote], ?_⟩
    rw [Json.writeText, List.getLast?_concat]
    rintro c ⟨⟩
    exact hquote
  rw [Spells, String.toList_ofList, htrimmed.trimChars_eq]
  exact Document.parse?_writeText t

theorem not_isBlank_of_numeral {c : Char} (h : c = '-' ∨ Ascii.isDigit c) : isBlank c = false := by
  rcases h with rfl | h
  · decide
  · obtain ⟨hlow, hhigh⟩ := of_decide_eq_true h
    have hlow : 48 ≤ c.toNat := hlow
    have hhigh : c.toNat ≤ 57 := hhigh
    simp only [isBlank, decide_eq_false_iff_not]
    omega

end Text

namespace Codec

variable {contentType other : String} {s t : String}

/-! ## Plain text -/

theorem decodeText_of_parse? {shape : Shape} {doc : Document} {v : Json}
    (hdoc : Document.parse? ((Text.trimChars s.toList).map some) = some doc)
    (hvalue : shape.ofDocument? doc = some v) : decodeText shape s = .ok v := by
  simp [decodeText, Shape.ofJson?, hdoc, hvalue]

theorem decodeText_boolean (b : Bool) :
    decodeText .boolean (String.ofList (Json.write (.boolean b))) = .ok (.boolean b) := by
  cases b <;> rfl

theorem decodeText_integer {shape : Shape} {n : Int} (h : Json.IsWord n) (hholds : shape.holds n) :
    decodeText shape (toString n) = .ok (.integer n) := by
  have htrimmed : Text.IsTrimmed (toString n).toList :=
    Text.isTrimmed_of_not_isBlank fun c hc =>
      Text.not_isBlank_of_numeral (Json.eq_minus_or_isDigit hc)
  refine decodeText_of_parse? (by rw [htrimmed.trimChars_eq, Document.parse?_toString]) ?_
  cases shape with
  | signed bits | unsigned bits =>
    simp [Shape.ofDocument?, Shape.ofDocumentFrom?, Json.Numeral.value?_ofInt h, hholds]
  | _ => cases hholds

theorem decodeText_of_spells (h : Text.Spells s t) : decodeText .string s = .ok (.string t) :=
  decodeText_of_parse? h rfl

/-- A text that spells no other is taken as it is. -/
theorem decodeText_of_not_spells (h : ∀ t, ¬Text.Spells s t) :
    decodeText .string s = .ok (.string s) := by
  have hnone : Shape.string.ofJson? ((Text.trimChars s.toList).map some) = none := by
    rw [Shape.ofJson?]
    cases hdoc : Document.parse? ((Text.trimChars s.toList).map some) with
    | none => rfl
    | some doc =>
      cases doc with
      | string read =>
        cases read with
        | none => rfl
        | some t => exact absurd hdoc (h t)
      | _ => rfl
  rw [decodeText, hnone]
  rfl

theorem encode_text (hname : MediaType.Names contentType MediaType.plainText) {d : Datum} {v : Json}
    {cs : List Char} (hvalue : d.toJson = .ok v) (hscalar : scalarText v = .ok cs) :
    encode contentType d = .ok (Utf8.encode (String.ofList cs)) := by
  have hkind : kind? contentType = some .text := kind?_eq_some_iff.2 hname
  simp [encode, hkind, hvalue, hscalar, Except.map]

theorem decode_text (hother : MediaType.Names other MediaType.plainText) (shape : Shape)
    (s : String) : decode other shape (Utf8.encode s) = decodeText shape s := by
  have hkind : kind? other = some .text := kind?_eq_some_iff.2 hother
  simp [decode, hkind, Utf8.decode_encode]

/-! ## Scalars -/

/-- What is written for a scalar is read as the value of its bare text. -/
theorem exists_encode_text (hname : MediaType.Names contentType MediaType.plainText)
    (hother : MediaType.Names other MediaType.plainText) {d : Datum} {v w : Json} {cs : List Char}
    {shape : Shape} (hvalue : d.toJson = .ok v) (hscalar : scalarText v = .ok cs)
    (hread : decodeText shape (String.ofList cs) = .ok w) :
    ∃ data, encode contentType d = .ok data ∧ decode other shape data = .ok w :=
  ⟨_, encode_text hname hvalue hscalar, by rw [decode_text hother, hread]⟩

theorem exists_encode_integer (hname : MediaType.Names contentType MediaType.plainText)
    (hother : MediaType.Names other MediaType.plainText) {n : Int} (h : Json.IsWord n)
    {shape : Shape} (hholds : shape.holds n) :
    ∃ data, encode contentType (.integer n) = .ok data ∧
      decode other shape data = .ok (.integer n) :=
  exists_encode_text hname hother rfl rfl
    (by simpa [Json.Number.write] using decodeText_integer h hholds)

/-- Truth values and integers of 64 bits come back from plain text. A text comes back unless it
spells another one, and then that one comes back. -/
theorem plain_text_round_trip (hname : MediaType.Names contentType MediaType.plainText)
    (hother : MediaType.Names other MediaType.plainText) :
    (∀ b : Bool, ∃ data, encode contentType (.boolean b) = .ok data ∧
      decode other .boolean data = .ok (.boolean b)) ∧
    (∀ n : Int, -(Nat.pow 2 63 : Nat) ≤ n → n < (Nat.pow 2 63 : Nat) →
      ∃ data, encode contentType (.integer n) = .ok data ∧
        decode other (.signed 64) data = .ok (.integer n)) ∧
    (∀ n : Int, 0 ≤ n → n < (Nat.pow 2 64 : Nat) →
      ∃ data, encode contentType (.integer n) = .ok data ∧
        decode other (.unsigned 64) data = .ok (.integer n)) ∧
    ∀ s : String, ∃ data, encode contentType (.text s) = .ok data ∧
      (decode other .string data = .ok (.string s) ↔ ∀ t, ¬Text.Spells s t) ∧
      ∀ t, Text.Spells s t → decode other .string data = .ok (.string t) := by
  refine ⟨fun b => ?_, fun n hlow hhigh => ?_, fun n hlow hhigh => ?_, fun s => ?_⟩
  · exact exists_encode_text hname hother rfl rfl (decodeText_boolean b)
  · have hword : Json.IsWord n := ⟨hlow, Int.lt_trans hhigh (by decide)⟩
    exact exists_encode_integer hname hother hword (decide_eq_true ⟨hlow, hhigh⟩)
  · have hword : Json.IsWord n := ⟨Int.le_trans (by decide) hlow, hhigh⟩
    exact exists_encode_integer hname hother hword (decide_eq_true ⟨hlow, hhigh⟩)
  · refine ⟨Utf8.encode s, ?_, ?_, fun t ht => ?_⟩
    · simpa using encode_text hname (d := .text s) rfl rfl
    · rw [decode_text hother]
      refine ⟨fun hread t ht => ?_, decodeText_of_not_spells⟩
      rw [decodeText_of_spells ht] at hread
      have hlength := ht.length_lt
      cases hread
      exact Nat.lt_irrefl _ hlength
    · rw [decode_text hother, decodeText_of_spells ht]

/-- A number between blanks is read as the text that it is. -/
theorem plain_text_round_trip_number :
    ∃ data, encode "Text/Plain; charset=utf-8" (.text " 42") = .ok data ∧
      decode "text/plain" .string data = .ok (.string " 42") := by
  obtain ⟨-, -, -, htexts⟩ := plain_text_round_trip
    (kind?_eq_some_iff.1 (show kind? "Text/Plain; charset=utf-8" = some .text by decide))
    (kind?_eq_some_iff.1 (show kind? "text/plain" = some .text by decide))
  obtain ⟨data, hencode, hread, -⟩ := htexts " 42"
  refine ⟨data, hencode, hread.2 fun t ht => ?_⟩
  have hnumber : Document.parse? ((Text.trimChars " 42".toList).map some) =
      some (.number { negative := false, whole := ['4', '2'] }) := rfl
  cases hnumber.symm.trans ht

/-- A text between quotes loses them. -/
theorem plain_text_unquotes :
    encode "text/plain" (.text "\"a\"") = .ok [0x22, 0x61, 0x22] ∧
      decode "text/plain" .string [0x22, 0x61, 0x22] = .ok (.string "a") ∧
      decode "text/plain" .string [0x22, 0x61, 0x22] ≠ .ok (.string "\"a\"") := by
  have hread : decode "text/plain" .string [0x22, 0x61, 0x22] = .ok (.string "a") := rfl
  refine ⟨rfl, hread, fun hkept => ?_⟩
  have hsame : "a" = "\"a\"" := Json.string.inj (Except.ok.inj (hread.symm.trans hkept))
  exact absurd hsame (by decide)

end Codec

end Courier
