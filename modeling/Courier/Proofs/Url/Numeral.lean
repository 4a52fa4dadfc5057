import Courier.Proofs.Text.Ascii
import Courier.Url.Host
import Mathlib.Algebra.Group.Nat.Defs
import Mathlib.Data.List.Induction

/-!
# Numerals to a base

A number is read back from its digits to any base up to sixteen (`Host.numeral?_toDigits`), with or
without zeros before them (`Host.numeral?_zeros_append`), and a numeral is less than the power of
its base to the number of its digits (`Host.numeral?_lt`).
-/

namespace Courier.Url.Host

variable {base n : Nat} {cs : List Char}

/-- A numeral to a base, the last digit split off. -/
theorem numeral?_append_singleton (base : Nat) (cs : List Char) (c : Char) :
    numeral? base (cs ++ [c]) = (numeral? base cs).bind fun n =>
      (Ascii.hexValue? c).bind fun d => if d < base then some (n * base + d) else none := by
  simp [numeral?, List.foldlM_append]

/-- The digits of a number are read as the number. -/
theorem numeral?_toDigits (hlow : 1 < base) (hhigh : base ≤ 16) (n : Nat) :
    numeral? base (Nat.toDigits base n) = some n := by
  induction n using Nat.base_induction base hlow with
  | single m hm =>
    have hvalue := Ascii.hexValue?_digitChar (Nat.lt_of_lt_of_le hm hhigh)
    rw [Nat.toDigits_of_lt_base hm]
    simp [numeral?, hvalue, hm]
  | digit m k hk hm ih =>
    have hvalue := Ascii.hexValue?_digitChar (Nat.lt_of_lt_of_le hk hhigh)
    rw [← Nat.toDigits_append_toDigits hlow hm hk, Nat.toDigits_of_lt_base hk,
      numeral?_append_singleton, ih]
    simp [hvalue, hk, Nat.mul_comm]

/-- Zeros before a numeral do not change the number. -/
theorem numeral?_zeros_append (hbase : 0 < base) (zeros : Nat) (cs : List Char) :
    numeral? base (List.replicate zeros '0' ++ cs) = numeral? base cs := by
  have hzero : Ascii.hexValue? '0' = some 0 := by decide
  induction zeros with
  | zero => rfl
  | succ zeros ih =>
    rw [List.replicate_succ, List.cons_append, ← ih]
    simp [numeral?, hzero, hbase]

/-- A numeral is less than the power of its base to the number of its digits. -/
theorem numeral?_lt (h : numeral? base cs = some n) : n < base ^ cs.length := by
  induction cs using List.reverseRecOn generalizing n with
  | nil =>
    obtain rfl : 0 = n := Option.some.inj h
    simp
  | append_singleton cs c ih =>
    rw [numeral?_append_singleton] at h
    obtain ⟨m, hm, h⟩ := Option.bind_eq_some_iff.1 h
    obtain ⟨d, -, h⟩ := Option.bind_eq_some_iff.1 h
    split at h
    · next hd =>
      obtain rfl := Option.some.inj h
      have hstep : (m + 1) * base ≤ base ^ cs.length * base := Nat.mul_le_mul_right base (ih hm)
      rw [Nat.add_mul] at hstep
      rw [List.length_append, List.length_singleton, Nat.pow_succ]
      omega
    · cases h

end Courier.Url.Host
