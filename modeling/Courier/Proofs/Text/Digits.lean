import Courier.Text.Ascii
import Courier.Text.Natural

/-!
# Digits of a number

What holds of every digit to a base holds of all characters of a number
(`Natural.forall_mem_toDigits`). The decimal digits that are written for a number are digits
(`Natural.isDigit_of_mem_toDigits`), they are read as that number (`Natural.ofDigits_toDigits`), and
the first one is no zero unless the number is zero (`Natural.head?_toDigits_ne`).
-/

namespace Courier.Natural

/-- What holds of every digit to a base holds of all characters of a number. -/
theorem forall_mem_toDigits {holds : Char → Prop} {base : Nat} (hbase : 1 < base)
    (h : ∀ d < base, holds d.digitChar) (n : Nat) : ∀ c ∈ Nat.toDigits base n, holds c := by
  induction n using Nat.base_induction base hbase with
  | single m hm =>
    rw [Nat.toDigits_of_lt_base hm]
    simpa using h m hm
  | digit m k hk hm ih =>
    rw [← Nat.toDigits_append_toDigits hbase hm hk, Nat.toDigits_of_lt_base hk]
    exact List.forall_mem_append.2 ⟨ih, List.forall_mem_singleton.2 (h k hk)⟩

theorem forall_mem_toString {holds : Char → Prop} (hdigit : ∀ d < 10, holds d.digitChar)
    (n : Nat) : ∀ c ∈ (toString n).toList, holds c := by
  rw [Nat.toString_eq_repr, Nat.repr_eq_ofList_toDigits, String.toList_ofList]
  exact forall_mem_toDigits (by decide) hdigit n

theorem isDigit_of_mem_toDigits {n : Nat} {c : Char} (h : c ∈ Nat.toDigits 10 n) :
    Ascii.isDigit c := by
  have hdigit := Nat.isDigit_of_mem_toDigits (by decide) (by decide) h
  simpa [Ascii.isDigit, Char.isDigit, Char.le_def] using hdigit

theorem exists_toDigits (n : Nat) : ∃ d ds, Nat.toDigits 10 n = d :: ds ∧ Ascii.isDigit d := by
  obtain ⟨d, ds, hdigits⟩ := List.exists_cons_of_ne_nil (Nat.toDigits_ne_nil (n := n) (b := 10))
  exact ⟨d, ds, hdigits, isDigit_of_mem_toDigits (n := n) (by simp [hdigits])⟩

theorem ofDigits_toDigits (n : Nat) : ofDigits (Nat.toDigits 10 n) = n := by
  have hread : Nat.ofDigitChars 10 (Nat.toDigits 10 n) 0 = n := Nat.ofDigitChars_ten_toDigits
  simpa only [ofDigits, Nat.ofDigitChars_eq_foldl, Nat.mul_comm 10] using hread

/-- The digits of a number that is not zero begin with another digit than zero. -/
theorem head?_toDigits_ne {n : Nat} (h : 0 < n) : (Nat.toDigits 10 n).head? ≠ some '0' := by
  induction n using Nat.base_induction 10 (by decide) with
  | single m hm =>
    rw [Nat.toDigits_of_lt_base hm]
    revert m
    decide
  | digit m k hk hm ih =>
    rw [← Nat.toDigits_append_toDigits (by decide) hm hk, List.head?_append]
    obtain ⟨d, ds, hdigits, -⟩ := exists_toDigits m
    simpa [hdigits] using ih hm

end Courier.Natural
