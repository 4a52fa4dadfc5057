import Courier.Text.Utf8

/-!
# Text read back from its bytes

The bytes of a text are read as that text and nothing else, by every reader of bytes
(`Utf8.symbols_encode`, `Utf8.lossy_encode`, `Utf8.decode_encode`). All three run one machine, which
makes one item of the bytes of a character and is then between characters again
(`Utf8.foldl_push_encodeChar`). The first byte of a character announces how many follow and rules
out the overlong forms and surrogates (`Utf8.lead_three`, `Utf8.lead_four`). A character's own bytes
are none of these.
-/

namespace Courier.Utf8

variable {α : Type} {char : Char → α} {broken : Nat → α} {items : List α} {b : UInt8}

/-! ## First bytes -/

theorem lead_one (h : b.toNat < 0x80) : lead b = .single :=
  if_pos (UInt8.lt_iff_toNat_lt.2 h)

theorem lead_two (hlow : 0xC2 ≤ b.toNat) (hhigh : b.toNat < 0xE0) :
    lead b = .multi 1 0x80 0xBF (b.toNat - 0xC0) := by
  simp only [lead, UInt8.lt_iff_toNat_lt, UInt8.reduceToNat]
  rw [if_neg (by omega), if_neg (by omega), if_pos hhigh]

theorem lead_three (hlow : 0xE0 ≤ b.toNat) (hhigh : b.toNat < 0xF0) :
    lead b = .multi 2 (if b.toNat = 0xE0 then 0xA0 else 0x80)
      (if b.toNat = 0xED then 0x9F else 0xBF) (b.toNat - 0xE0) := by
  simp only [lead, UInt8.lt_iff_toNat_lt, ← UInt8.toNat_inj, UInt8.reduceToNat]
  rw [if_neg (by omega), if_neg (by omega), if_neg (by omega)]
  by_cases hfirst : b.toNat = 0xE0
  · simp [hfirst]
  · by_cases hsurrogate : b.toNat = 0xED
    · simp [hsurrogate]
    · simp [hfirst, hsurrogate, hhigh]

theorem lead_four (hlow : 0xF0 ≤ b.toNat) (hhigh : b.toNat < 0xF5) :
    lead b = .multi 3 (if b.toNat = 0xF0 then 0x90 else 0x80)
      (if b.toNat = 0xF4 then 0x8F else 0xBF) (b.toNat - 0xF0) := by
  simp only [lead, UInt8.lt_iff_toNat_lt, ← UInt8.toNat_inj, UInt8.reduceToNat]
  rw [if_neg (by omega), if_neg (by omega), if_neg (by omega), if_neg (by omega),
    if_neg (by omega), if_neg (by omega)]
  by_cases hfirst : b.toNat = 0xF0
  · simp [hfirst]
  · by_cases hlast : b.toNat = 0xF4
    · simp [hlast]
    · have hmiddle : b.toNat < 0xF4 := by omega
      simp [hfirst, hlast, hmiddle]

/-! ## Characters -/

variable {low high : UInt8} {owed bits width n : Nat}

theorem Reader.push_single (h : b.toNat < 0x80) :
    Reader.push char broken ⟨items, .start⟩ b = ⟨char (Char.ofNat b.toNat) :: items, .start⟩ := by
  simp [Reader.push, Reader.first, lead_one h]

theorem Reader.push_first (h : lead b = .multi (owed + 1) low high bits) :
    Reader.push char broken ⟨items, .start⟩ b = ⟨items, .inside owed low high bits 1⟩ := by
  simp [Reader.push, Reader.first, h]

theorem toNat_ofNat_of_lt {n : Nat} (h : n < 256) : (UInt8.ofNat n).toNat = n := by
  rw [UInt8.toNat_ofNat']
  exact Nat.mod_eq_of_lt h

/-- A fact about bytes, from the 256 of them. -/
@[elab_as_elim]
theorem forall_byte {motive : UInt8 → Prop} (h : ∀ n < 256, motive (UInt8.ofNat n)) (b : UInt8) :
    motive b :=
  UInt8.ofNat_toNat (x := b) ▸ h b.toNat b.toNat_lt

/-- The byte of six bits after the first byte of a character. -/
def further (n : Nat) : UInt8 :=
  UInt8.ofNat (n % 64 + 0x80)

theorem toNat_further (n : Nat) : (further n).toNat = n % 64 + 0x80 :=
  toNat_ofNat_of_lt (by omega)

theorem Reader.push_further (hlow : low.toNat ≤ n % 64 + 0x80)
    (hhigh : n % 64 + 0x80 ≤ high.toNat) :
    Reader.push char broken ⟨items, .inside (owed + 1) low high bits width⟩ (further n) =
      ⟨items, .inside owed 0x80 0xBF (bits * 64 + n % 64) (width + 1)⟩ := by
  simp [Reader.push, UInt8.le_iff_toNat_le, toNat_further, hlow, hhigh]

theorem Reader.push_further_last (hlow : low.toNat ≤ n % 64 + 0x80)
    (hhigh : n % 64 + 0x80 ≤ high.toNat) :
    Reader.push char broken ⟨items, .inside 0 low high bits width⟩ (further n) =
      ⟨char (Char.ofNat (bits * 64 + n % 64)) :: items, .start⟩ := by
  simp [Reader.push, UInt8.le_iff_toNat_le, toNat_further, hlow, hhigh]

/-- No further byte is outside the range that most of them may come from. -/
theorem further_bounds (n : Nat) :
    (0x80 : UInt8).toNat ≤ n % 64 + 0x80 ∧ n % 64 + 0x80 ≤ (0xBF : UInt8).toNat := by
  simp only [UInt8.reduceToNat]
  omega

theorem foldl_push_two (hlow : 0x80 ≤ n) (hhigh : n < 0x800) :
    [UInt8.ofNat (n / 64 % 0x20 + 0xC0), further n].foldl (Reader.push char broken)
      ⟨items, .start⟩ = ⟨char (Char.ofNat n) :: items, .start⟩ := by
  have hfirst : (UInt8.ofNat (n / 64 % 0x20 + 0xC0)).toNat = n / 64 % 0x20 + 0xC0 :=
    toNat_ofNat_of_lt (by omega)
  obtain ⟨hlow', hhigh'⟩ := further_bounds n
  rw [List.foldl_cons, List.foldl_cons, List.foldl_nil,
    Reader.push_first (lead_two (by omega) (by omega)), Reader.push_further_last hlow' hhigh']
  congr 4
  omega

theorem foldl_push_three (hlow : 0x800 ≤ n) (hhigh : n < 0x10000)
    (hvalid : n < 0xD800 ∨ 0xDFFF < n) :
    [UInt8.ofNat (n / 4096 % 0x10 + 0xE0), further (n / 64), further n].foldl
      (Reader.push char broken) ⟨items, .start⟩ = ⟨char (Char.ofNat n) :: items, .start⟩ := by
  have hfirst : (UInt8.ofNat (n / 4096 % 0x10 + 0xE0)).toNat = n / 4096 % 0x10 + 0xE0 :=
    toNat_ofNat_of_lt (by omega)
  obtain ⟨hlow', hhigh'⟩ := further_bounds n
  rw [List.foldl_cons, List.foldl_cons, List.foldl_cons, List.foldl_nil,
    Reader.push_first (lead_three (by omega) (by omega)), Reader.push_further,
    Reader.push_further_last hlow' hhigh']
  · congr 4
    omega
  · split <;> simp only [UInt8.reduceToNat] <;> omega
  · split <;> simp only [UInt8.reduceToNat] <;> omega

theorem foldl_push_four (hlow : 0x10000 ≤ n) (hhigh : n < 0x110000) :
    [UInt8.ofNat (n / 262144 % 0x08 + 0xF0), further (n / 4096), further (n / 64),
      further n].foldl (Reader.push char broken) ⟨items, .start⟩ =
        ⟨char (Char.ofNat n) :: items, .start⟩ := by
  have hfirst : (UInt8.ofNat (n / 262144 % 0x08 + 0xF0)).toNat = n / 262144 % 0x08 + 0xF0 :=
    toNat_ofNat_of_lt (by omega)
  obtain ⟨hlow', hhigh'⟩ := further_bounds (n / 64)
  obtain ⟨hlow'', hhigh''⟩ := further_bounds n
  rw [List.foldl_cons, List.foldl_cons, List.foldl_cons, List.foldl_cons, List.foldl_nil,
    Reader.push_first (lead_four (by omega) (by omega)), Reader.push_further,
    Reader.push_further hlow' hhigh', Reader.push_further_last hlow'' hhigh'']
  · congr 4
    omega
  · split <;> simp only [UInt8.reduceToNat] <;> omega
  · split <;> simp only [UInt8.reduceToNat] <;> omega

/-- The bytes of a character are read as the character. -/
theorem foldl_push_encodeChar (c : Char) :
    (String.utf8EncodeChar c).foldl (Reader.push char broken) ⟨items, .start⟩ =
      ⟨char c :: items, .start⟩ := by
  have hvalid : c.toNat < 0xD800 ∨ 0xDFFF < c.toNat ∧ c.toNat < 0x110000 := c.valid
  have hchar : char c = char (Char.ofNat c.toNat) := by rw [Char.ofNat_toNat]
  unfold String.utf8EncodeChar
  rw [show c.val.toNat = c.toNat from rfl, hchar]
  generalize c.toNat = n at hvalid
  dsimp only
  split
  · have hfirst : (UInt8.ofNat n).toNat = n := toNat_ofNat_of_lt (by omega)
    rw [List.foldl_cons, List.foldl_nil, Reader.push_single (by omega), hfirst]
  split
  · exact foldl_push_two (by omega) (by omega)
  split
  · exact foldl_push_three (by omega) (by omega) (by omega)
  · exact foldl_push_four (by omega) (by omega)

/-! ## Texts -/

/-- The bytes of a text are read as its characters. -/
theorem read_encode (char : Char → α) (broken : Nat → α) (s : String) :
    read char broken (encode s) = { items := (s.toList.map char).reverse } := by
  have hread (cs : List Char) : ∀ items : List α,
      (cs.flatMap String.utf8EncodeChar).foldl (Reader.push char broken) ⟨items, .start⟩ =
        ⟨(cs.map char).reverse ++ items, .start⟩ := by
    induction cs with
    | nil => exact fun items => rfl
    | cons c cs ih =>
      intro items
      rw [List.flatMap_cons, List.foldl_append, foldl_push_encodeChar, ih]
      simp
  exact (hread s.toList []).trans (by rw [List.append_nil])

theorem symbols_encode (s : String) : symbols (encode s) = s.toList.map some := by
  simp [symbols, read_encode]

theorem lossy_encode (s : String) : lossy (encode s) = s := by
  simp [lossy, read_encode]

theorem decode_encode (s : String) : decode (encode s) = .ok s := by
  have hsettle (cs : List Char) : ∀ (index : Nat) (read : List Char),
      settle false (cs.map .ok) index read = .ok (read.reverse ++ cs) := by
    induction cs with
    | nil => simp [settle]
    | cons c cs ih => simp [settle, ih]
  simp [decode, read_encode, hsettle, Except.map]

/-- The codes of ASCII characters. -/
def codes (cs : List Char) : Bytes :=
  cs.map fun c => UInt8.ofNat c.toNat

theorem not_mem_codes {cs : List Char} {b : UInt8} (h : ∀ c ∈ cs, UInt8.ofNat c.toNat ≠ b) :
    b ∉ codes cs := by
  rw [codes, List.mem_map]
  rintro ⟨c, hc, hcode⟩
  exact h c hc hcode

/-- The bytes of an ASCII text are the codes of its characters. -/
theorem encode_ofList_of_ascii {cs : List Char} (h : ∀ c ∈ cs, c.toNat < 0x80) :
    encode (String.ofList cs) = codes cs := by
  induction cs with
  | nil => rfl
  | cons c cs ih =>
    obtain ⟨hc, hcs⟩ := List.forall_mem_cons.1 h
    have hbytes : String.utf8EncodeChar c = [UInt8.ofNat c.toNat] :=
      if_pos (Nat.le_of_lt_succ hc)
    have ih := ih hcs
    simp only [encode, String.toList_ofList] at ih ⊢
    rw [List.flatMap_cons, hbytes, ih]
    rfl

end Courier.Utf8
