import Mathlib

/-!
# Floats and their bits

A machine float is a word of bits in which NaN has one form only. `toBits` therefore tells floats
apart, negative zero and subnormals included, and `ofBits` leads back from it. The other way round
every word but the other NaNs is the bits of its float. Read `pack_unpack` first.
-/

namespace Panorama.Number

open Float.Model (UnpackedFloat Format)
open Float.Model.UnpackedFloat

section Words

variable {spec : Format}

/-- A word is made of its sign, its exponent and its mantissa. -/
theorem pack_components_unpacked (word : BitVec spec.numBits) :
    packComponents spec (Sign.ofBitVec (unpackSign word)) (unpackExponent word)
      (unpackMantissa word) = word := by
  have hsign (bit : BitVec 1) : (Sign.ofBitVec bit).toBitVec = bit := by
    revert bit
    decide
  have hmantissa := spec.hm
  simp only [packComponents, hsign, unpackSign, unpackExponent, unpackMantissa,
    BitVec.extractLsb]
  ext index hindex
  grind

/-- The implicit bit of a normal number stands above its mantissa. -/
theorem implicit_bit_toNat {width : Nat} (mantissa : BitVec width) :
    (1#1 ++ mantissa).toNat = 2 ^ width + mantissa.toNat := by
  rw [BitVec.toNat_append, ← Nat.shiftLeft_add_eq_or_of_lt mantissa.isLt]
  simp [Nat.shiftLeft_eq]

/-- The mantissa of a normal number has all the bits of its format. -/
theorem log2_implicit_bit {width : Nat} (mantissa : BitVec width) :
    (1#1 ++ mantissa).toNat.log2 = width := by
  have hvalue := implicit_bit_toNat mantissa
  have hbound := mantissa.isLt
  have hpositive : 0 < 2 ^ width := Nat.two_pow_pos width
  rw [Nat.log2_eq_iff (by omega), hvalue, Nat.pow_succ]
  omega

/-- An exponent below the largest one is not the largest one in its word either. -/
theorem exponent_not_largest {biased : Nat} (h : ¬2 ^ spec.exponentBits ≤ biased + 1) :
    BitVec.ofNat spec.exponentBits biased ≠ -1#_ := by
  intro hlargest
  have hvalue := congrArg BitVec.toNat hlargest
  rw [BitVec.toNat_ofNat, BitVec.neg_one_eq_allOnes, BitVec.toNat_allOnes,
    Nat.mod_eq_of_lt (by omega)] at hvalue
  omega

/-- Packing keeps a subnormal number in its word. -/
theorem pack_subnormal (hbits : 2 ≤ spec.exponentBits) (sign : Sign)
    (mantissa : BitVec spec.mantissaBitsWithoutImplicit) (hmantissa : 0 < mantissa.toNat) :
    pack spec (.finite sign mantissa.toNat
        (((BitVec.ofNat spec.exponentBits 0).toNat : Int)
          - (spec.exponentBias + spec.mantissaBitsWithoutImplicit) + 1) hmantissa)
      = packComponents spec sign 0#_ mantissa := by
  have hpower : 2 ^ 2 ≤ 2 ^ spec.exponentBits := Nat.pow_le_pow_right (by omega) hbits
  have hlog : mantissa.toNat.log2 < spec.mantissaBitsWithoutImplicit :=
    (Nat.log2_lt (by omega)).mpr mantissa.isLt
  have hbiased : (((BitVec.ofNat spec.exponentBits 0).toNat : Int)
      - (spec.exponentBias + spec.mantissaBitsWithoutImplicit) + 1 + spec.exponentBias
      + spec.mantissaBitsWithoutImplicit).toNat = 1 := by
    simp only [BitVec.toNat_zero]
    omega
  -- What tells a subnormal number is that its mantissa misses the highest bit.
  have hsmall : mantissa.toNat.log2 + 1 ≠ spec.mantissaBits := by
    simp only [Format.mantissaBits]
    omega
  simp only [pack, hbiased]
  rw [if_neg (by omega), if_neg hsmall, BitVec.ofNat_toNat, BitVec.setWidth_eq]

/-- Packing keeps a normal number in its word. -/
theorem pack_normal (sign : Sign) (exponent : BitVec spec.exponentBits)
    (mantissa : BitVec spec.mantissaBitsWithoutImplicit) (hexponent : exponent ≠ -1#_)
    (hmantissa : 0 < (1#1 ++ mantissa).toNat) :
    pack spec (.finite sign (1#1 ++ mantissa).toNat
        ((exponent.toNat : Int) - (spec.exponentBias + spec.mantissaBitsWithoutImplicit))
        hmantissa)
      = packComponents spec sign exponent mantissa := by
  have hbelow : exponent.toNat + 1 < 2 ^ spec.exponentBits := by
    have hbound := exponent.isLt
    have hdifferent : exponent.toNat ≠ 2 ^ spec.exponentBits - 1 := by
      intro hequal
      refine hexponent (BitVec.toNat_inj.mp ?_)
      rw [hequal, BitVec.neg_one_eq_allOnes, BitVec.toNat_allOnes]
    omega
  have hbiased : ((exponent.toNat : Int)
      - (spec.exponentBias + spec.mantissaBitsWithoutImplicit) + spec.exponentBias
      + spec.mantissaBitsWithoutImplicit).toNat = exponent.toNat := by
    omega
  have hfull : (1#1 ++ mantissa).toNat.log2 + 1 = spec.mantissaBits := by
    rw [log2_implicit_bit, Format.mantissaBits, Nat.add_comm]
  have hlow : BitVec.ofNat spec.mantissaBitsWithoutImplicit (1#1 ++ mantissa).toNat
      = mantissa := by
    rw [← BitVec.toNat_inj, BitVec.toNat_ofNat, implicit_bit_toNat, Nat.add_mod_left,
      Nat.mod_eq_of_lt mantissa.isLt]
  simp only [pack, hbiased]
  rw [if_neg (by omega), if_pos hfull, hlow, BitVec.ofNat_toNat, BitVec.setWidth_eq]

/-- Packing what a word stands for gives the word back, unless it is a NaN. -/
theorem pack_unpack (hbits : 2 ≤ spec.exponentBits) (word : BitVec spec.numBits)
    (hnumber : unpack spec word ≠ .notANumber) : pack spec (unpack spec word) = word := by
  have hword := pack_components_unpacked word
  rw [unpack] at hnumber ⊢
  split
  · rename_i hexponent
    rw [hexponent] at hword
    split
    · rename_i hmantissa
      rw [hmantissa] at hword
      exact hword
    · rename_i hmantissa
      exact absurd (by rw [if_pos hexponent, if_neg hmantissa]) hnumber
  · rename_i hexponent
    split
    · rename_i hzero
      split
      · rename_i hmantissa
        rw [hzero, hmantissa] at hword
        exact hword
      · simp only [hzero]
        rw [pack_subnormal hbits, ← hzero]
        exact hword
    · exact (pack_normal _ _ _ hexponent _).trans hword

/-- Packing what a word stands for gives the word back if its NaNs have the one form. -/
theorem pack_unpack_of_valid (hbits : 2 ≤ spec.exponentBits) (word : BitVec spec.numBits)
    (hvalid : spec.Valid word) : pack spec (unpack spec word) = word := by
  by_cases hnumber : unpack spec word = .notANumber
  · rw [hnumber]
    rw [unpack] at hnumber
    split at hnumber
    · rename_i hexponent
      split at hnumber
      · cases hnumber
      · rename_i hmantissa
        exact (hvalid.eq_packedNaN hexponent hmantissa).symm
    · split at hnumber
      · split at hnumber <;> cases hnumber
      · cases hnumber
  · exact pack_unpack hbits word hnumber

end Words

/-! ## Singles and doubles -/

/-- A single is told by its bits. -/
theorem single_ext_bits {value other : Float32} (h : value.toBits = other.toBits) :
    value = other := by
  obtain ⟨⟨bits, hvalid⟩⟩ := value
  obtain ⟨⟨otherBits, hother⟩⟩ := other
  cases (h : bits = otherBits)
  rfl

/-- A double is told by its bits. -/
theorem double_ext_bits {value other : Float} (h : value.toBits = other.toBits) :
    value = other := by
  obtain ⟨⟨bits, hvalid⟩⟩ := value
  obtain ⟨⟨otherBits, hother⟩⟩ := other
  cases (h : bits = otherBits)
  rfl

/-- The bits of a single lead back to it. -/
@[simp] theorem single_of_bits_to_bits (value : Float32) : Float32.ofBits value.toBits = value := by
  apply single_ext_bits
  exact congrArg UInt32.ofBitVec (pack_unpack_of_valid (by decide) _ value.toModel.valid)

/-- The bits of a double lead back to it. -/
@[simp] theorem double_of_bits_to_bits (value : Float) : Float.ofBits value.toBits = value := by
  apply double_ext_bits
  exact congrArg UInt64.ofBitVec (pack_unpack_of_valid (by decide) _ value.toModel.valid)

/-- A single is told by what it stands for. -/
theorem single_ext_unpacked {value other : Float32}
    (h : value.toModel.unpack = other.toModel.unpack) : value = other := by
  have hpacked (value : Float32) :
      pack .binary32 value.toModel.unpack = value.toBits.toBitVec :=
    pack_unpack_of_valid (by decide) _ value.toModel.valid
  apply single_ext_bits
  rw [← UInt32.toBitVec_inj, ← hpacked value, h, hpacked]

/-- A word that is read as a finite single is the bits of that single. -/
theorem single_to_bits_of_bits {word : UInt32} (hfinite : (Float32.ofBits word).isFinite) :
    (Float32.ofBits word).toBits = word := by
  refine congrArg UInt32.ofBitVec (@pack_unpack .binary32 (by decide) word.toBitVec ?_)
  intro hnan
  have hword : Float32.ofBits word = .ofModel (.pack .notANumber) :=
    congrArg (fun value ↦ Float32.ofModel (.pack value)) hnan
  rw [hword] at hfinite
  exact absurd hfinite (by decide)

/-- A word that is read as a finite double is the bits of that double. -/
theorem double_to_bits_of_bits {word : UInt64} (hfinite : (Float.ofBits word).isFinite) :
    (Float.ofBits word).toBits = word := by
  refine congrArg UInt64.ofBitVec (@pack_unpack .binary64 (by decide) word.toBitVec ?_)
  intro hnan
  have hword : Float.ofBits word = .ofModel (.pack .notANumber) :=
    congrArg (fun value ↦ Float.ofModel (.pack value)) hnan
  rw [hword] at hfinite
  exact absurd hfinite (by decide)

end Panorama.Number
