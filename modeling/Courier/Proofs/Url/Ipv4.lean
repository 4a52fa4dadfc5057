import Courier.Proofs.Text.Digits
import Courier.Proofs.Text.Split
import Courier.Proofs.Url.Numeral

/-!
# Addresses of version 4

An address is read back from its four decimal numbers (`Host.ipv4?_print`), and every address that
is read has 32 bits (`Host.lt_of_ipv4?`).
-/

namespace Courier.Url.Host

variable {n k : Nat} {cs : List Char}

/-! ## Dotted names -/

theorem dotted_of_getLast? {parts : List (List Char)} (hdots : ∀ part ∈ parts, '.' ∉ part)
    (hlast : parts.getLast? ≠ some []) (hne : parts ≠ []) :
    dotted (['.'].intercalate parts) = parts := by
  have hsplit : Text.splitAt '.' (['.'].intercalate parts) = parts := by
    rw [Text.splitAt_eq_splitOn, List.splitOn_intercalate '.' hdots hne]
  unfold dotted
  simp only [hsplit]
  exact if_neg fun h => hlast h.2

/-- A decimal number is read as a part of an address. -/
theorem part?_toDigits (n : Nat) : part? (Nat.toDigits 10 n) = some n := by
  have hread : numeral? 10 (Nat.toDigits 10 n) = some n :=
    numeral?_toDigits (by decide) (by decide) n
  obtain ⟨d, ds, hdigits, -⟩ := Natural.exists_toDigits n
  rcases Nat.eq_zero_or_pos n with rfl | hpos
  · rfl
  have hd : d ≠ '0' := by
    have hne := Natural.head?_toDigits_ne hpos
    rw [hdigits] at hne
    exact fun heq => hne (congrArg some heq)
  rw [hdigits] at hread ⊢
  unfold part?
  split
  · next hnil => cases hnil
  · next hcons => exact absurd (List.cons.inj hcons).1 hd
  · next hcons => exact absurd (List.cons.inj hcons).1 hd
  · next hcons => exact absurd (List.cons.inj hcons).1 hd
  · exact hread

/-! ## Addresses -/

/-- The four bytes of an address, the first one first. -/
def octets (n : Nat) : List Nat :=
  [n / 16777216 % 256, n / 65536 % 256, n / 256 % 256, n % 256]

theorem toList_printIpv4 (n : Nat) :
    (printIpv4 n).toList = ['.'].intercalate ((octets n).map (Nat.toDigits 10)) := by
  rw [printIpv4, String.toList_intercalate, List.map_map]
  simp [octets, Function.comp_def]

/-- What holds of a dot and of every decimal digit holds of all characters of an address. -/
theorem forall_mem_printIpv4 {holds : Char → Prop} (hdot : holds '.')
    (hdigit : ∀ d < 10, holds d.digitChar) (n : Nat) : ∀ c ∈ (printIpv4 n).toList, holds c := by
  intro c hc
  rw [toList_printIpv4] at hc
  obtain rfl | ⟨digits, hdigits, hc⟩ := Text.mem_intercalate hc
  · exact hdot
  · obtain ⟨octet, -, rfl⟩ := List.mem_map.1 hdigits
    exact Natural.forall_mem_toDigits (by decide) hdigit octet c hc

theorem dotted_printIpv4 (n : Nat) :
    dotted (printIpv4 n).toList = (octets n).map (Nat.toDigits 10) := by
  rw [toList_printIpv4]
  refine dotted_of_getLast? (fun digits hdigits hdot => ?_) (fun hlast => ?_) (List.cons_ne_nil _ _)
  · obtain ⟨octet, -, rfl⟩ := List.mem_map.1 hdigits
    exact absurd (Natural.isDigit_of_mem_toDigits hdot) (by decide)
  · exact Nat.toDigits_ne_nil (Option.some.inj hlast)

theorem assemble?_octets (h : n < 2 ^ 32) : assemble? (octets n) = some n := by
  have hfront : [n / 16777216 % 256, n / 65536 % 256, n / 256 % 256].any (· > 255) = false := by
    simp only [List.any_cons, List.any_nil, Bool.or_false, Bool.or_eq_false_iff,
      decide_eq_false_iff_not]
    omega
  unfold assemble? octets
  simp only [List.getLast?_cons_cons, List.getLast?_singleton, List.dropLast_cons_cons,
    List.dropLast_singleton, List.length_cons, List.length_nil, List.foldl_cons, List.foldl_nil,
    hfront]
  have hfree : Nat.pow 256 (4 - (0 + 1 + 1 + 1)) = 256 := rfl
  rw [hfree, if_neg (by simp; omega)]
  refine congrArg some ?_
  omega

/-- An address is read back from its four decimal numbers. -/
theorem ipv4?_print (h : n < 2 ^ 32) : ipv4? (printIpv4 n).toList = some n := by
  have hread : ((octets n).map (Nat.toDigits 10)).mapM part? = some (octets n) :=
    Text.mapM_map_of_forall_mem fun octet _ => part?_toDigits octet
  unfold ipv4?
  simp only [dotted_printIpv4, hread]
  exact (if_neg (by decide : ¬ 4 > 4)).trans (assemble?_octets h)

theorem endsInNumber_printIpv4 (n : Nat) : endsInNumber (printIpv4 n).toList := by
  have hlast : (dotted (printIpv4 n).toList).getLast? = some (Nat.toDigits 10 (n % 256)) := by
    rw [dotted_printIpv4]
    rfl
  have hdigits : (Nat.toDigits 10 (n % 256)).all Ascii.isDigit :=
    List.all_eq_true.2 fun c hc => Natural.isDigit_of_mem_toDigits hc
  unfold endsInNumber
  rw [hlast]
  exact decide_eq_true ⟨Nat.toDigits_ne_nil, .inl hdigits⟩

/-- Bytes after a number make a number of as many bytes more. -/
theorem foldl_bytes_lt {bytes : List Nat} (h : ∀ b ∈ bytes, b ≤ 255) (n : Nat) :
    bytes.foldl (fun n b => n * 256 + b) n < (n + 1) * 256 ^ bytes.length := by
  induction bytes generalizing n with
  | nil => simp
  | cons b bytes ih =>
    obtain ⟨hb, hbytes⟩ := List.forall_mem_cons.1 h
    have hstep : (n * 256 + b + 1) * 256 ^ bytes.length ≤ (n + 1) * 256 * 256 ^ bytes.length :=
      Nat.mul_le_mul_right _ (by omega)
    rw [List.foldl_cons, List.length_cons, Nat.pow_succ', ← Nat.mul_assoc]
    exact Nat.lt_of_lt_of_le (ih hbytes _) hstep

theorem lt_of_assemble? {numbers : List Nat} (h : assemble? numbers = some n) : n < 2 ^ 32 := by
  unfold assemble? at h
  split at h
  · cases h
  next last hlast =>
  dsimp only at h
  split at h
  · cases h
  next hbounds =>
  obtain ⟨hlength, hfront, hlast'⟩ : numbers.length ≤ 4 ∧ (∀ b ∈ numbers.dropLast, b ≤ 255) ∧
      last < 256 ^ (4 - numbers.dropLast.length) := by
    simpa [not_or] using hbounds
  have hvalue := foldl_bytes_lt hfront 0
  generalize numbers.dropLast.foldl (fun n b => n * 256 + b) 0 = value at h hvalue
  have hshort : numbers.dropLast.length ≤ 4 := by
    rw [List.length_dropLast]
    omega
  generalize numbers.dropLast.length = k at h hvalue hlast' hshort
  obtain rfl := Option.some.inj h
  calc value * 256 ^ (4 - k) + last
      < (value + 1) * 256 ^ (4 - k) := by rw [Nat.add_mul]; omega
    _ ≤ 256 ^ k * 256 ^ (4 - k) := Nat.mul_le_mul_right _ (by omega)
    _ = 256 ^ 4 := by rw [← Nat.pow_add, Nat.add_sub_cancel' hshort]
    _ = 2 ^ 32 := rfl

/-- Every address that is read has 32 bits. -/
theorem lt_of_ipv4? (h : ipv4? cs = some n) : n < 2 ^ 32 := by
  unfold ipv4? at h
  dsimp only at h
  split at h
  · cases h
  · obtain ⟨numbers, -, h⟩ := Option.bind_eq_some_iff.1 h
    exact lt_of_assemble? h

end Courier.Url.Host
