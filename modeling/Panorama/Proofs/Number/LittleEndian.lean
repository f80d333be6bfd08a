import Mathlib
import Panorama.Number.LittleEndian

/-!
# Laws of little-endian words

A number that fits into so many bytes is read back from them, and every list of bytes is the word
of its number.
-/

namespace Panorama.Number.LittleEndian

/-- A word has as many bytes as it is given. -/
@[simp] theorem length_encode (count value : Nat) : (encode count value).length = count := by
  induction count generalizing value with
  | zero => rfl
  | succ count ih => rw [encode, List.length_cons, ih]

/-- A word of one byte is that byte. -/
theorem encode_one {value : Nat} (h : value < 256) : encode 1 value = [UInt8.ofNat value] := by
  rw [encode, encode, Nat.mod_eq_of_lt h]

/-- A number that fits into a word is read back. -/
theorem decode_encode {count value : Nat} (h : value < 256 ^ count) :
    decode (encode count value) = value := by
  induction count generalizing value with
  | zero =>
      rw [Nat.pow_zero] at h
      rw [encode, decode]
      omega
  | succ count ih =>
      have hrest : value / 256 < 256 ^ count := by
        rw [Nat.pow_succ] at h
        exact Nat.div_lt_of_lt_mul (by omega)
      have hlow : (UInt8.ofNat (value % 256)).toNat = value % 256 :=
        UInt8.toNat_ofNat_of_lt' (Nat.mod_lt _ (by decide))
      rw [encode, decode, ih hrest, hlow]
      omega

/-- Bytes are the word of the number they are read as. -/
theorem encode_decode (bytes : List UInt8) : encode bytes.length (decode bytes) = bytes := by
  induction bytes with
  | nil => rfl
  | cons byte rest ih =>
      have hbyte := byte.toNat_lt
      rw [List.length_cons, encode, decode]
      rw [show (byte.toNat + 256 * decode rest) / 256 = decode rest by omega, ih]
      rw [show (byte.toNat + 256 * decode rest) % 256 = byte.toNat by omega, UInt8.ofNat_toNat]

/-- The number of some bytes fits into them. -/
theorem decode_lt (bytes : List UInt8) : decode bytes < 256 ^ bytes.length := by
  induction bytes with
  | nil => exact Nat.zero_lt_one
  | cons byte rest ih =>
      have hbyte := byte.toNat_lt
      rw [decode, List.length_cons, Nat.pow_succ]
      omega

/-- The words of so many bytes are exactly the lists of so many bytes. -/
theorem eq_encode_iff {count value : Nat} {bytes : List UInt8} :
    bytes.length = count ∧ decode bytes = value ↔
      value < 256 ^ count ∧ bytes = encode count value := by
  constructor
  · intro hparts
    obtain ⟨rfl, rfl⟩ := hparts
    exact ⟨decode_lt bytes, (encode_decode bytes).symm⟩
  · intro hparts
    obtain ⟨hvalue, rfl⟩ := hparts
    exact ⟨length_encode count value, decode_encode hvalue⟩

end Panorama.Number.LittleEndian
