import Courier.Json.Document
import Courier.Json.Printer
import Courier.Proofs.Text.Ascii

/-!
# Texts read from JSON

What is written for a character inside a text is read as that character, whatever comes after it
(`Document.text_escaped`), and so the whole of a text is read back up to its closing quote
(`Document.text_writeText`). A text that has been read is shorter than what it was read from, since
no spelling of a character is empty and the quote is left out (`Document.text_length`).
-/

namespace Courier.Json.Document

open Utf8 (Symbol)

/-- The escape of a control character is read as its code. -/
theorem unit?_hexDigits (rest : List Symbol) {n : Nat} (h : n < 0x20) :
    unit? (some '0' :: some '0' :: some (Ascii.hexDigit (n / 16)) ::
      some (Ascii.hexDigit (n % 16)) :: rest) = some (n, rest) := by
  have hzero : Ascii.hexValue? '0' = some 0 := by decide
  simp only [unit?, hzero, Ascii.hexValue?_hexDigit (show n / 16 < 16 by omega),
    Ascii.hexValue?_hexDigit (show n % 16 < 16 by omega)]
  congr 2
  omega

/-- What is written for a character inside a text is read as the character. -/
theorem text_escaped (fuel : Nat) (read : List Char) (c : Char) (rest : List Symbol) :
    text (fuel + 1) none (some read) ((escaped c).map some ++ rest) =
      text fuel none (some (c :: read)) rest := by
  unfold escaped
  iterate 7
    split
    · next h => subst h; rfl
  split
  · next h =>
    have hcode : c.toNat < 0x20 := h
    have hunit := unit?_hexDigits rest hcode
    have hlow : ¬(0xD800 ≤ c.toNat ∧ c.toNat ≤ 0xDBFF) := by omega
    have hhigh : ¬(0xDC00 ≤ c.toNat ∧ c.toNat ≤ 0xDFFF) := by omega
    simp [text, hunit, hlow, hhigh, Spelled.push]
  · next hslash _ _ _ _ _ hprints => simp [text, hslash, hprints, Spelled.push]

theorem length_escaped_pos (c : Char) : 0 < (escaped c).length := by
  unfold escaped
  repeat' split
  all_goals exact Nat.zero_lt_succ _

/-- What is written for characters is read as them, up to the quote that ends the text. -/
theorem text_flatMap_escaped {cs : List Char} {fuel : Nat}
    (hfuel : (cs.flatMap escaped).length < fuel) (read : List Char) (rest : List Symbol) :
    text fuel none (some read) ((cs.flatMap escaped).map some ++ some '"' :: rest) =
      some (some (String.ofList (read.reverse ++ cs)), rest) := by
  induction cs generalizing fuel read with
  | nil =>
    obtain ⟨fuel, rfl⟩ := Nat.exists_eq_succ_of_ne_zero (Nat.ne_of_gt hfuel)
    simp [text]
  | cons c cs ih =>
    have hpos := length_escaped_pos c
    rw [List.flatMap_cons, List.length_append] at hfuel
    obtain ⟨fuel, rfl⟩ := Nat.exists_eq_succ_of_ne_zero (show fuel ≠ 0 by omega)
    rw [List.flatMap_cons, List.map_append, List.append_assoc, text_escaped, ih (by omega)]
    simp

/-- What is written for a text is read as the text. -/
theorem text_writeText (s : String) (rest : List Symbol) :
    let body := (s.toList.flatMap escaped).map some ++ some '"' :: rest
    text (body.length + 1) none (some []) body = some (some s, rest) := by
  intro body
  have hlength : (s.toList.flatMap escaped).length < body.length + 1 := by
    simp only [body, List.length_append, List.length_map]
    omega
  rw [text_flatMap_escaped hlength]
  simp

/-! ## Lengths -/

theorem length_of_unit? {cs rest : List Symbol} {n : Nat} (h : unit? cs = some (n, rest)) :
    cs.length = rest.length + 4 := by
  unfold unit? at h
  split at h
  · split at h
    · cases h
      rfl
    · cases h
  · cases h

/-- How many characters have been read. -/
def Spelled.length (read : Spelled) : Nat :=
  (read.getD []).length

theorem Spelled.length_none : Spelled.length none = 0 :=
  rfl

theorem Spelled.length_push_le (read : Spelled) (c : Char) :
    (read.push c).length ≤ read.length + 1 := by
  cases read with
  | none => exact Nat.zero_le _
  | some cs => exact Nat.le_refl _

theorem Spelled.length_broken_le (high : Option Nat) (read : Spelled) :
    Spelled.length (if high.isSome then none else read) ≤ read.length := by
  split
  · exact Nat.zero_le _
  · exact Nat.le_refl _

/-- A text is shorter than what it is read from. -/
theorem text_length {fuel : Nat} {high : Option Nat} {read : Spelled} {cs rest : List Symbol}
    {s : String} (h : text fuel high read cs = some (some s, rest)) :
    s.length + rest.length < read.length + cs.length := by
  -- The cases are the branches of the reader : it stops, it reads four digits, an escape of one
  -- letter, a character that stands for itself, or an ill-formed byte.
  fun_induction text fuel high read cs with
  | case1 | case2 | case4 | case11 | case13 => cases h
  | case3 fuel high read broken =>
    obtain ⟨hs, rfl⟩ := Prod.mk.inj (Option.some.inj h)
    obtain ⟨cs, hcs, rfl⟩ := Option.map_eq_some_iff.1 hs
    have hlength : broken.length = cs.length := by
      rw [hcs]
      rfl
    have hbroken : broken.length ≤ read.length := read.length_broken_le high
    simp only [String.length_ofList, List.length_reverse, List.length_cons]
    omega
  | case5 _ _ _ _ _ hunit _ _ _ ih | case6 _ _ _ _ _ hunit _ _ _ ih
  | case7 _ _ _ _ _ hunit _ _ _ ih | case8 _ _ _ _ _ hunit _ ih
  | case9 _ _ _ _ _ hunit _ _ ih | case10 _ _ _ _ _ hunit _ _ ih =>
    have hread := ih h
    have hlength := length_of_unit? hunit
    simp only [List.length_cons, hlength]
    grind [Spelled.length_push_le, Spelled.length_none]
  | case12 _ high read _ _ _ _ _ _ ih | case14 _ high read _ _ _ _ _ _ _ ih =>
    have hread := ih h
    have hbroken := read.length_broken_le high
    simp only [List.length_cons]
    grind [Spelled.length_push_le]
  | case15 _ _ _ _ ih =>
    have hread := ih h
    simp only [List.length_cons]
    grind [Spelled.length_none]

end Courier.Json.Document
