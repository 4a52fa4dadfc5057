import Courier.Json.Document
import Courier.Json.Printer
import Courier.Proofs.Text.Digits
import Courier.Proofs.Text.Split

/-!
# Integers read back from JSON

An integer that fits a word of 64 bits, with a sign or without, is written as a numeral that is read
as that integer (`Document.numeral_write`, `Numeral.value?_ofInt`). What follows the numeral may be
anything that does not continue it (`Document.Ends`).
-/

namespace Courier.Json

open Natural (isDigit_of_mem_toDigits exists_toDigits ofDigits_toDigits head?_toDigits_ne)
open Utf8 (Symbol)

/-! ## Texts of integers -/

/-- What is written for an integer. -/
theorem toList_toString (n : Int) : (toString n).toList =
    if n < 0 then '-' :: Nat.toDigits 10 n.natAbs else Nat.toDigits 10 n.natAbs := by
  rw [Int.toString_eq_repr, Int.repr_eq_if]
  split
  · next h =>
    rw [if_neg (by omega), Nat.toList_repr, show n.toNat = n.natAbs by omega]
  · next h =>
    rw [if_pos (by omega), String.toList_append, Nat.toList_repr,
      show (-n).toNat = n.natAbs by omega]
    rfl

theorem eq_minus_or_isDigit {n : Int} {c : Char} (h : c ∈ (toString n).toList) :
    c = '-' ∨ Ascii.isDigit c := by
  rw [toList_toString] at h
  split at h
  · exact (List.mem_cons.1 h).imp_right isDigit_of_mem_toDigits
  · exact .inr (isDigit_of_mem_toDigits h)

theorem exists_cons_toString (n : Int) : ∃ c tail, (toString n).toList = c :: tail ∧
    (c = '-' ∨ Ascii.isDigit c) := by
  have hne : (toString n).toList ≠ [] := by
    rw [toList_toString]
    split
    · exact List.cons_ne_nil _ _
    · exact Nat.toDigits_ne_nil
  obtain ⟨c, tail, hchars⟩ := List.exists_cons_of_ne_nil hne
  exact ⟨c, tail, hchars, eq_minus_or_isDigit (hchars ▸ List.mem_cons_self)⟩

/-! ## Numerals -/

/-- The numeral of an integer. -/
def Numeral.ofInt (n : Int) : Numeral :=
  { negative := n < 0, whole := Nat.toDigits 10 n.natAbs }

/-- A word of 64 bits, with a sign or without. -/
def IsWord (n : Int) : Prop :=
  -(Nat.pow 2 63 : Nat) ≤ n ∧ n < (Nat.pow 2 64 : Nat)

instance : DecidablePred IsWord := fun n =>
  inferInstanceAs (Decidable (-(Nat.pow 2 63 : Nat) ≤ n ∧ n < (Nat.pow 2 64 : Nat)))

theorem isWord_iff {n : Int} :
    IsWord n ↔ -9223372036854775808 ≤ n ∧ n < 18446744073709551616 :=
  Iff.rfl

theorem Numeral.value?_ofInt {n : Int} (h : IsWord n) : (ofInt n).value? = some (.integer n) := by
  obtain ⟨hlow, hhigh⟩ := isWord_iff.1 h
  have hlength : (Nat.toDigits 10 n.natAbs).length ≤ 20 := by
    rw [Nat.length_toDigits_le_iff (by decide) (by decide)]
    omega
  simp only [value?, ofInt, ofDigits_toDigits]
  rw [if_pos ⟨rfl, rfl, hlength⟩]
  generalize hm : n.natAbs = m
  by_cases hneg : n < 0
  · have hmagnitude : 0 < m ∧ m ≤ Nat.pow 2 63 := by
      change _ ∧ m ≤ 9223372036854775808
      omega
    have hvalue : -(m : Int) = n := by omega
    simp [hneg, hmagnitude, hvalue]
  · have hmagnitude : m < Natural.bound64 := by
      change m < 18446744073709551616
      omega
    have hvalue : (m : Int) = n := by omega
    simp [hneg, hmagnitude, hvalue]

namespace Document

variable {rest : List Symbol} {n : Int}

/-- Nothing that continues a numeral. -/
def Ends (rest : List Symbol) : Prop :=
  ∀ c ∈ rest.head?, isDigit c = false ∧ c ≠ some '.' ∧ c ≠ some 'e' ∧ c ≠ some 'E'

theorem ends_nil : Ends [] := fun _ hc => by cases hc

theorem spanDigits_append {digits : List Char} (hdigits : ∀ c ∈ digits, Ascii.isDigit c)
    (hrest : Ends rest) : spanDigits (digits.map some ++ rest) = (digits, rest) := by
  have hall : ∀ c ∈ digits.map some, isDigit c := by
    simpa [isDigit] using hdigits
  have hstop : ∀ c ∈ rest.head?, isDigit c = false := fun c hc => (hrest c hc).1
  have hchars : (digits.map some).filterMap id = digits := by
    rw [List.filterMap_map]
    exact List.filterMap_some
  rw [spanDigits, Text.takeWhile_append hall hstop, Text.dropWhile_append hall hstop, hchars]

theorem exponent_of_ends (hrest : Ends rest) : exponent rest = some (none, rest) := by
  cases rest with
  | nil => rfl
  | cons c rest =>
    obtain ⟨-, -, he, hE⟩ := hrest c rfl
    simp [exponent, he, hE]

theorem fraction_of_ends (negative : Bool) (whole : List Char) (hrest : Ends rest) :
    fraction negative whole rest = some (⟨negative, whole, none, none⟩, rest) := by
  unfold fraction
  split
  · exact absurd rfl (hrest _ rfl).2.1
  · rw [exponent_of_ends hrest]
    rfl

theorem unsigned_write (negative : Bool) (n : Nat) (hrest : Ends rest) :
    unsigned negative ((Nat.toDigits 10 n).map some ++ rest) =
      some (⟨negative, Nat.toDigits 10 n, none, none⟩, rest) := by
  rw [unsigned, spanDigits_append (fun c => isDigit_of_mem_toDigits) hrest]
  dsimp only
  split
  · next hnil => exact absurd hnil Nat.toDigits_ne_nil
  · next c ds hzero =>
    exfalso
    rcases Nat.eq_zero_or_pos n with rfl | hn
    · simp at hzero
    · exact head?_toDigits_ne hn (by rw [hzero]; rfl)
  · exact fraction_of_ends negative _ hrest

/-- What is written for an integer is read as its numeral. -/
theorem numeral_write (n : Int) (hrest : Ends rest) :
    numeral ((toString n).toList.map some ++ rest) = some (.ofInt n, rest) := by
  rw [toList_toString]
  split
  · next hneg =>
    rw [List.map_cons, List.cons_append, numeral, unsigned_write true _ hrest, Numeral.ofInt,
      decide_eq_true hneg]
  · next hneg =>
    unfold numeral
    split
    · next hminus =>
      obtain ⟨d, ds, hdigits, hd⟩ := exists_toDigits n.natAbs
      rw [hdigits] at hminus
      obtain rfl : d = '-' := Option.some.inj (List.cons.inj hminus).1
      exact absurd hd (by decide)
    · rw [unsigned_write false _ hrest, Numeral.ofInt, decide_eq_false hneg]

end Document

end Courier.Json
