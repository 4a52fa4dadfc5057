import Courier.Text.Ascii
import Courier.Text.Blank

/-!
# Small letters and hexadecimal digits

Only capitals change when letters are made small (`Ascii.lower_cases`), so making them small again
changes nothing, and blanks stay what they are. A hexadecimal digit is read as the number that it
was written for (`Ascii.hexValue?_hexDigit`).
-/

namespace Courier.Ascii

/-- Only the 26 capitals change, each into its small letter. -/
theorem lower_cases (c : Char) : lower c = c ∨
    ∃ n < 26, c = Char.ofNat (65 + n) ∧ lower c = Char.ofNat (97 + n) := by
  by_cases h : 'A' ≤ c ∧ c ≤ 'Z'
  · have hlow : 65 ≤ c.toNat := h.1
    have hhigh : c.toNat ≤ 90 := h.2
    refine .inr ⟨c.toNat - 65, by omega, ?_, ?_⟩
    · rw [Nat.add_sub_cancel' hlow, Char.ofNat_toNat]
    · rw [lower, if_pos h]
      congr 1
      omega
  · exact .inl (if_neg h)

theorem lower_lower (c : Char) : lower (lower c) = lower c := by
  have hsmall : ∀ n < 26, lower (Char.ofNat (97 + n)) = Char.ofNat (97 + n) := by decide
  obtain h | ⟨n, hn, -, h⟩ := lower_cases c
  · rw [h, h]
  · rw [h, hsmall n hn]

/-- Capitals and small letters are no blanks. -/
theorem isBlank_lower (c : Char) : Text.isBlank (lower c) = Text.isBlank c := by
  have hletters : ∀ n < 26,
      Text.isBlank (Char.ofNat (97 + n)) = Text.isBlank (Char.ofNat (65 + n)) := by
    decide
  obtain h | ⟨n, hn, hc, h⟩ := lower_cases c
  · rw [h]
  · rw [h, hletters n hn, hc]

/-! ## Hexadecimal digits -/

section Digits

variable {n : Nat}

theorem hexValue?_hexDigit (h : n < 16) : hexValue? (hexDigit n) = some n := by
  revert n
  decide

theorem hexDigit_eq_digitChar (h : n < 16) : hexDigit n = n.digitChar := by
  revert n
  decide

theorem hexValue?_digitChar (h : n < 16) : hexValue? n.digitChar = some n := by
  rw [← hexDigit_eq_digitChar h, hexValue?_hexDigit h]

end Digits

end Courier.Ascii
