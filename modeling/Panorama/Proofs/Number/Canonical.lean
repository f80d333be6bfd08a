import Panorama.Proofs.Number.Bits

/-!
# The form of numbers that a format holds

A format holds a number in one form only: with all bits of the mantissa, or with the smallest
exponent. Rounding brings a number that the format holds into this form and leaves its value,
whatever mantissa and exponent it is written with, and packing keeps it. Read `round_eq` and
`unpack_pack` first.
-/

namespace Panorama.Number

open Float.Model (UnpackedFloat Format totalExponent)
open Float.Model.UnpackedFloat

variable {spec : Format} {sign : Sign} {mantissa other : Nat} {exponent : Int}

/-! ### The form -/

/-- The form in which a format holds a number that is not zero. -/
structure IsCanonical (spec : Format) (mantissa : Nat) (exponent : Int) : Prop where
  positive : 0 < mantissa
  bits : mantissa < 2 ^ spec.mantissaBits
  lowest : spec.minExponent ≤ exponent
  highest : exponent + spec.mantissaBitsWithoutImplicit ≤ spec.exponentBias
  full : 2 ^ spec.mantissaBitsWithoutImplicit ≤ mantissa ∨ exponent = spec.minExponent

instance (spec : Format) (mantissa : Nat) (exponent : Int) :
    Decidable (IsCanonical spec mantissa exponent) :=
  decidable_of_iff (0 < mantissa ∧ mantissa < 2 ^ spec.mantissaBits ∧ spec.minExponent ≤ exponent ∧
      exponent + spec.mantissaBitsWithoutImplicit ≤ spec.exponentBias ∧
        (2 ^ spec.mantissaBitsWithoutImplicit ≤ mantissa ∨ exponent = spec.minExponent))
    ⟨fun ⟨positive, bits, lowest, highest, full⟩ ↦ ⟨positive, bits, lowest, highest, full⟩,
      fun h ↦ ⟨h.positive, h.bits, h.lowest, h.highest, h.full⟩⟩

/-- The smallest exponent by the bias. -/
theorem min_exponent_eq (spec : Format) :
    spec.minExponent = 1 - (spec.exponentBias : Int) - spec.mantissaBitsWithoutImplicit := by
  have hpower : 1 ≤ 2 ^ (spec.exponentBits - 1) := Nat.one_le_two_pow
  unfold Format.minExponent Format.exponentBias Format.mantissaBits
  push_cast [hpower]
  omega

/-- The exponents on both sides of the bias fill the exponent bits. -/
theorem exponent_capacity (spec : Format) :
    2 ^ spec.exponentBits = 2 * spec.exponentBias + 2 := by
  have hbits := spec.he
  have hpower : 1 ≤ 2 ^ (spec.exponentBits - 1) := Nat.one_le_two_pow
  have hdouble : 2 ^ spec.exponentBits = 2 ^ (spec.exponentBits - 1) * 2 := by
    rw [← pow_succ, Nat.sub_add_cancel hbits]
  unfold Format.exponentBias
  omega

/-- Shifting a mantissa to the left counts as many bits more. -/
theorem log2_mul_two_pow (hpositive : 0 < mantissa) (shift : Nat) :
    (mantissa * 2 ^ shift).log2 = mantissa.log2 + shift := by
  induction shift with
  | zero => rw [pow_zero, Nat.mul_one, Nat.add_zero]
  | succ shift ih =>
      have hnonzero : mantissa * 2 ^ shift ≠ 0 :=
        Nat.mul_ne_zero hpositive.ne' (Nat.two_pow_pos shift).ne'
      have hdouble : mantissa * 2 ^ (shift + 1) = 2 * (mantissa * 2 ^ shift) := by ring
      rw [hdouble, Nat.log2_two_mul hnonzero, ih, Nat.add_assoc]

/-- A number with further zero bits behind its mantissa has its highest bit at the same place. -/
theorem total_exponent_shifted (hpositive : 0 < mantissa) (exponent : Int) (shift : Nat) :
    totalExponent (mantissa * 2 ^ shift) (exponent - shift) = totalExponent mantissa exponent := by
  unfold totalExponent
  rw [log2_mul_two_pow hpositive]
  push_cast
  omega

/-- A number at a higher exponent has zero bits behind its mantissa. -/
theorem value_shifted (mantissa shift : Nat) (exponent : Int) :
    (mantissa : ℚ) * 2 ^ (exponent + shift) = (mantissa * 2 ^ shift : Nat) * 2 ^ exponent := by
  rw [zpow_add₀ two_ne_zero, zpow_natCast]
  push_cast
  ring

/-- A mantissa with a bit makes a positive number at every exponent. -/
theorem value_pos {mantissa : Nat} (h : 0 < mantissa) (exponent : Int) :
    (0 : ℚ) < mantissa * 2 ^ exponent :=
  mul_pos (Nat.cast_pos.mpr h) (zpow_pos two_pos exponent)

namespace IsCanonical

/-- The mantissa has no more bits than the format. -/
theorem log2_lt (h : IsCanonical spec mantissa exponent) : mantissa.log2 < spec.mantissaBits :=
  (Nat.log2_lt h.positive.ne').mpr h.bits

/-- The form of a number is the one that rounding aims at. -/
theorem target_eq (h : IsCanonical spec mantissa exponent) :
    spec.targetExponent (totalExponent mantissa exponent) = exponent := by
  have hbits := h.log2_lt
  have hlowest := h.lowest
  unfold Format.targetExponent totalExponent
  rcases h.full with hfull | hsmallest
  · have hlog := (Nat.le_log2 h.positive.ne').mpr hfull
    simp only [Format.mantissaBits] at hbits ⊢
    omega
  · omega

/-- However far its mantissa is shifted, a number has the same form. -/
theorem target_shifted (h : IsCanonical spec mantissa exponent) (shift : Nat) :
    spec.targetExponent (totalExponent (mantissa * 2 ^ shift) (exponent - shift)) = exponent := by
  rw [total_exponent_shifted h.positive, h.target_eq]

end IsCanonical

/-! ### Rounding -/

/-- Bits that are zero are shifted out of a mantissa without a trace. -/
theorem shift_right_exact (mantissa shift : Nat) :
    ExtendedMantissa.ofMantissaAndAccuracy (mantissa * 2 ^ shift) .exact >>> shift
      = ⟨mantissa, false, false⟩ := by
  induction shift generalizing mantissa with
  | zero =>
      rw [pow_zero, Nat.mul_one]
      rfl
  | succ shift ih =>
      have hdouble : mantissa * 2 ^ (shift + 1) = mantissa * 2 * 2 ^ shift := by ring
      show (ExtendedMantissa.ofMantissaAndAccuracy (mantissa * 2 ^ (shift + 1)) .exact
        >>> shift).shiftRightOne = _
      rw [hdouble, ih]
      simp [ExtendedMantissa.shiftRightOne]

/-- A number with further zero bits behind its mantissa is brought into its form. -/
theorem shift_to_target_exact (h : IsCanonical spec mantissa exponent) (shift : Nat) :
    shiftToTargetExponent spec (mantissa * 2 ^ shift) (exponent - shift) .exact
      = (⟨mantissa, false, false⟩, exponent) := by
  have hshift : (exponent - (exponent - shift)).toNat = shift := by omega
  unfold shiftToTargetExponent shiftToExponent
  simp only [h.target_shifted, hshift, shift_right_exact]
  congr 1
  omega

/-- Rounding a number that the format holds, with further zero bits, gives the number. -/
theorem round_with_accuracy_eq (h : IsCanonical spec mantissa exponent) (sign : Sign)
    (shift : Nat) :
    roundWithAccuracy spec sign (mantissa * 2 ^ shift) (exponent - shift) .exact
      = .finite sign mantissa exponent h.positive := by
  have hagain := shift_to_target_exact h 0
  rw [pow_zero, Nat.mul_one, Nat.cast_zero, Int.sub_zero] at hagain
  have hrounded : (⟨mantissa, false, false⟩ : ExtendedMantissa).roundedMantissa = mantissa := rfl
  unfold roundWithAccuracy
  simp only [shift_to_target_exact h, hrounded, hagain]
  rw [dif_neg h.positive.ne']

/-- Numbers with the same value have the same mantissa up to zero bits behind one of them. -/
theorem mantissa_eq_of_value {left right : Nat} {low high : Int} (hle : low ≤ high)
    (hvalue : (left : ℚ) * 2 ^ low = right * 2 ^ high) :
    left = right * 2 ^ (high - low).toNat := by
  obtain ⟨shift, rfl⟩ := Int.le.dest hle
  rw [value_shifted] at hvalue
  rw [add_sub_cancel_left, Int.toNat_natCast]
  exact_mod_cast mul_right_cancel₀ (zpow_pos two_pos low).ne' hvalue

/-- Numbers with the same value have their highest bit at the same place. -/
theorem total_exponent_eq {left right : Nat} {place other : Int} (hleft : 0 < left)
    (hright : 0 < right) (hvalue : (left : ℚ) * 2 ^ place = right * 2 ^ other) :
    totalExponent left place = totalExponent right other := by
  have hshifted {left right : Nat} {low high : Int} (hright : 0 < right) (hle : low ≤ high)
      (hvalue : (left : ℚ) * 2 ^ low = right * 2 ^ high) :
      totalExponent left low = totalExponent right high := by
    rw [mantissa_eq_of_value hle hvalue,
      ← total_exponent_shifted hright high (high - low).toNat]
    congr 1
    omega
  rcases le_total place other with hle | hle
  · exact hshifted hright hle hvalue
  · exact (hshifted hleft hle hvalue.symm).symm

/-- Rounding gives the form of a number that the format holds, whatever mantissa and exponent it is
written with. -/
theorem round_eq {written : Nat} {place : Int} (h : IsCanonical spec mantissa exponent)
    (sign : Sign) (hvalue : (written : ℚ) * 2 ^ place = mantissa * 2 ^ exponent) :
    UnpackedFloat.round spec sign written place = .finite sign mantissa exponent h.positive := by
  have hpositive := value_pos h.positive exponent
  rw [← hvalue] at hpositive
  have hwritten : 0 < written :=
    Nat.cast_pos.mp (pos_of_mul_pos_left hpositive (zpow_pos two_pos place).le)
  have htarget : spec.targetExponent (totalExponent written place) = exponent := by
    rw [total_exponent_eq hwritten h.positive hvalue, h.target_eq]
  unfold UnpackedFloat.round decreaseExponent
  rcases le_total place exponent with hlow | hhigh
  · have hshift : (place - exponent).toNat = 0 := by omega
    have hround := round_with_accuracy_eq h sign (exponent - place).toNat
    rw [← mantissa_eq_of_value hlow hvalue] at hround
    simp only [htarget, hshift, Nat.shiftLeft_zero]
    rw [← hround]
    congr 1
    omega
  · have hround := round_with_accuracy_eq h sign 0
    rw [pow_zero, Nat.mul_one, Nat.cast_zero, Int.sub_zero] at hround
    simp only [htarget, Nat.shiftLeft_eq, ← mantissa_eq_of_value hhigh hvalue.symm]
    rw [← hround]
    congr 1
    omega

/-- A format holds every number with few bits at an exponent that it has. -/
theorem exists_canonical {written : Nat} {place : Int} (hpositive : 0 < written)
    (hbits : written < 2 ^ spec.mantissaBits) (hlowest : spec.minExponent ≤ place)
    (hhighest : place + spec.mantissaBitsWithoutImplicit ≤ spec.exponentBias) :
    ∃ mantissa exponent, IsCanonical spec mantissa exponent ∧
      (mantissa : ℚ) * 2 ^ exponent = written * 2 ^ place := by
  have hlog : written.log2 < spec.mantissaBits := (Nat.log2_lt hpositive.ne').mpr hbits
  have htotal : spec.mantissaBits = 1 + spec.mantissaBitsWithoutImplicit := rfl
  -- The number is shifted until it has all bits, or as far as the exponents go.
  obtain ⟨shift, hshift⟩ : ∃ shift : Nat, place - shift = spec.targetExponent
      (totalExponent written place) := by
    refine ⟨(place - spec.targetExponent (totalExponent written place)).toNat, ?_⟩
    unfold Format.targetExponent totalExponent
    omega
  have hlog2 := log2_mul_two_pow hpositive shift
  have hshifted : 0 < written * 2 ^ shift := Nat.mul_pos hpositive (Nat.two_pow_pos shift)
  unfold Format.targetExponent totalExponent at hshift
  refine ⟨written * 2 ^ shift, place - shift, ⟨hshifted, ?_, ?_, ?_, ?_⟩, ?_⟩
  · rw [← Nat.log2_lt hshifted.ne', hlog2]
    omega
  · omega
  · omega
  · rw [← Nat.le_log2 hshifted.ne', hlog2]
    omega
  · rw [Nat.cast_mul, Nat.cast_pow, Nat.cast_ofNat, zpow_sub₀ two_ne_zero, zpow_natCast]
    field_simp

/-! ### Packing -/

/-- The bits of a sign lead back to it. -/
@[simp] theorem sign_of_to_bits (sign : Sign) : Sign.ofBitVec sign.toBitVec = sign := by
  cases sign <;> rfl

/-- A word has the sign that it is made with. -/
@[simp] theorem unpack_sign_of_components (exponent : BitVec spec.exponentBits)
    (mantissa : BitVec spec.mantissaBitsWithoutImplicit) :
    unpackSign (packComponents spec sign exponent mantissa) = sign.toBitVec := by
  refine BitVec.eq_of_getLsbD_eq fun index hindex ↦ ?_
  obtain rfl : index = 0 := by omega
  simp [unpackSign, packComponents, BitVec.getLsbD_append, BitVec.getElem_append]

/-- Unpacking gives a packed number back. -/
theorem unpack_pack (h : IsCanonical spec mantissa exponent) (sign : Sign) :
    unpack spec (pack spec (.finite sign mantissa exponent h.positive))
      = .finite sign mantissa exponent h.positive := by
  have hcapacity := exponent_capacity spec
  have hminimum := min_exponent_eq spec
  have hlowest := h.lowest
  have hhighest := h.highest
  have hlog := h.log2_lt
  obtain ⟨biased, hbiased⟩ : ∃ biased : Nat,
      (biased : Int) = exponent + spec.exponentBias + spec.mantissaBitsWithoutImplicit :=
    ⟨(exponent + spec.exponentBias + spec.mantissaBitsWithoutImplicit).toNat, by omega⟩
  have hnat : (exponent + spec.exponentBias + spec.mantissaBitsWithoutImplicit).toNat = biased := by
    omega
  have hword : (BitVec.ofNat spec.exponentBits biased).toNat = biased := by
    rw [BitVec.toNat_ofNat, Nat.mod_eq_of_lt (by omega)]
  have hnumber : BitVec.ofNat spec.exponentBits biased ≠ -1#_ := exponent_not_largest (by omega)
  have hzero : BitVec.ofNat spec.exponentBits 0 ≠ -1#_ := exponent_not_largest (by omega)
  unfold pack
  simp only [hnat]
  rw [if_neg (by omega)]
  by_cases hfull : 2 ^ spec.mantissaBitsWithoutImplicit ≤ mantissa
  · have hall : mantissa.log2 + 1 = spec.mantissaBits := by
      have hbits := (Nat.le_log2 h.positive.ne').mpr hfull
      simp only [Format.mantissaBits] at hlog ⊢
      omega
    have hmantissa :
        (1#1 ++ BitVec.ofNat spec.mantissaBitsWithoutImplicit mantissa).toNat = mantissa := by
      have hbits := h.bits
      rw [Format.mantissaBits, Nat.add_comm, pow_succ] at hbits
      rw [implicit_bit_toNat, BitVec.toNat_ofNat, Nat.mod_eq_sub_mod hfull,
        Nat.mod_eq_of_lt (by omega)]
      omega
    have hsmallest : BitVec.ofNat spec.exponentBits biased ≠ 0#_ := by
      rw [BitVec.toNat_ne, hword, BitVec.toNat_zero]
      omega
    rw [if_pos hall]
    unfold unpack
    simp only [unpackMantissa_packComponents, unpackExponent_packComponents,
      unpack_sign_of_components, sign_of_to_bits, if_neg hnumber, if_neg hsmallest, hmantissa,
      hword]
    congr 1
    omega
  · have hsmallest := h.full.resolve_left hfull
    have hsome : mantissa.log2 + 1 ≠ spec.mantissaBits := by
      have hbits := (Nat.log2_lt h.positive.ne').mpr (Nat.lt_of_not_le hfull)
      simp only [Format.mantissaBits]
      omega
    have hmantissa :
        (BitVec.ofNat spec.mantissaBitsWithoutImplicit mantissa).toNat = mantissa := by
      rw [BitVec.toNat_ofNat, Nat.mod_eq_of_lt (Nat.lt_of_not_le hfull)]
    have hpositive : BitVec.ofNat spec.mantissaBitsWithoutImplicit mantissa ≠ 0#_ := by
      rw [BitVec.toNat_ne, hmantissa, BitVec.toNat_zero]
      exact h.positive.ne'
    rw [if_neg hsome]
    unfold unpack
    simp only [unpackMantissa_packComponents, unpackExponent_packComponents,
      unpack_sign_of_components, sign_of_to_bits, if_neg hzero, if_pos, dif_neg hpositive,
      hmantissa, BitVec.toNat_zero]
    congr 1
    omega

/-- What a word stands for, if it is a number that is not zero, is in the form of its format. -/
theorem canonical_of_unpack (hbits : 2 ≤ spec.exponentBits) {word : BitVec spec.numBits}
    {positive : 0 < mantissa} (h : unpack spec word = .finite sign mantissa exponent positive) :
    IsCanonical spec mantissa exponent := by
  have hpower : 2 ^ 2 ≤ 2 ^ spec.exponentBits := Nat.pow_le_pow_right (by omega) hbits
  have hcapacity := exponent_capacity spec
  have hminimum := min_exponent_eq spec
  have hexponent := (unpackExponent word).isLt
  have hmantissa := (unpackMantissa word).isLt
  have hdouble : 2 ^ spec.mantissaBits = 2 ^ spec.mantissaBitsWithoutImplicit * 2 := by
    rw [Format.mantissaBits, Nat.add_comm, pow_succ]
  unfold unpack at h
  simp only at h
  split at h
  · split at h <;> cases h
  · rename_i hlargest
    rw [← BitVec.toNat_inj, BitVec.neg_one_eq_allOnes, BitVec.toNat_allOnes] at hlargest
    split at h
    · rename_i hzero
      split at h
      · cases h
      · cases h
        rw [← BitVec.toNat_inj, BitVec.toNat_zero] at hzero
        exact ⟨positive, by omega, by omega, by omega, .inr (by omega)⟩
    · rename_i hnormal
      cases h
      rw [← BitVec.toNat_inj, BitVec.toNat_zero] at hnormal
      have hvalue := implicit_bit_toNat (unpackMantissa word)
      exact ⟨positive, by omega, by omega, by omega, .inl (by omega)⟩

end Panorama.Number
