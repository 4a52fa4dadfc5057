import Courier.Digest.Sha256
import Courier.Proofs.Text.Ascii

/-!
# Digit pairs read back

The pairs of digits that are written for bytes are read as the bytes
(`Hex.decodeChars_flatMap_ofByte`).
-/

namespace Courier.Hex

theorem decodeChars_ofByte_append (b : UInt8) (rest : List Char) :
    decodeChars (ofByte b ++ rest) = (decodeChars rest).map (b :: ·) := by
  have hsize := b.toNat_lt
  have hbyte : UInt8.ofNat (b.toNat / 16 * 16 + b.toNat % 16) = b := by
    rw [Nat.div_add_mod', UInt8.ofNat_toNat]
  simp only [ofByte, List.cons_append, List.nil_append, decodeChars,
    Ascii.hexValue?_hexDigit (show b.toNat / 16 < 16 by omega),
    Ascii.hexValue?_hexDigit (show b.toNat % 16 < 16 by omega)]
  cases decodeChars rest with
  | none => rfl
  | some bytes => simp only [hbyte, Option.map_some]

theorem decodeChars_flatMap_ofByte (bytes : Bytes) :
    decodeChars (bytes.flatMap ofByte) = some bytes := by
  induction bytes with
  | nil => rfl
  | cons b bytes ih => rw [List.flatMap_cons, decodeChars_ofByte_append, ih, Option.map_some]

/-- What holds of every small digit holds of the digits of a byte. -/
theorem forall_mem_ofByte {holds : Char → Prop} (hdigit : ∀ d < 16, holds (Ascii.hexDigit d))
    (b : UInt8) : ∀ c ∈ ofByte b, holds c := by
  have hsize := b.toNat_lt
  simp only [ofByte, List.forall_mem_cons]
  exact ⟨hdigit _ (by omega), hdigit _ (by omega), List.forall_mem_nil _⟩

end Courier.Hex
