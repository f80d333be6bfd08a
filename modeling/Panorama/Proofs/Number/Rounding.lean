import Panorama.Proofs.Number.Value

/-!
# Results that are rounded

An operation whose exact result is not held gives a number near it. What is said here of this number
is where it cannot be: rounding leads to no number beyond one that the format holds, on either side.
So a sum between two numbers that are held is still between them when it is rounded. Read
`HasValue.add_between` first.
-/

namespace Panorama.Number

open Float.Model (UnpackedFloat Format totalExponent)
open Float.Model.UnpackedFloat

variable {spec : Format}

/-! ### Shifting a mantissa -/

/-- What is shifted out of a mantissa leaves a trace unless it is zero. -/
theorem shift_right_rest (written shift : Nat) :
    let shifted := ExtendedMantissa.ofMantissaAndAccuracy written .exact >>> shift
    (shifted.roundBit || shifted.stickyBit) = decide (written % 2 ^ shift ≠ 0) := by
  induction shift with
  | zero => simp [Nat.mod_one, ExtendedMantissa.ofMantissaAndAccuracy, HShiftRight.hShiftRight,
      Nat.repeat]
  | succ shift ih =>
      have hmantissa := shift_right_mantissa (.ofMantissaAndAccuracy written .exact) shift
      have hbit : (ExtendedMantissa.ofMantissaAndAccuracy written .exact).mantissa = written := rfl
      show ((ExtendedMantissa.ofMantissaAndAccuracy written .exact >>> shift).mantissa % 2 != 0
        || ((ExtendedMantissa.ofMantissaAndAccuracy written .exact >>> shift).roundBit
          || (ExtendedMantissa.ofMantissaAndAccuracy written .exact >>> shift).stickyBit)) = _
      have hpower := (Nat.two_pow_pos shift).ne'
      rw [ih, hmantissa, hbit, pow_succ, Nat.mod_mul, Bool.eq_iff_iff, Bool.or_eq_true,
        bne_iff_ne, decide_eq_true_eq, decide_eq_true_eq, ne_eq, ne_eq, ne_eq, Nat.add_eq_zero_iff,
        Nat.mul_eq_zero]
      tauto

/-- A mantissa is rounded to itself or to the next one, and to itself if it has no trace. -/
theorem rounded_mantissa_cases (shifted : ExtendedMantissa) :
    shifted.mantissa ≤ shifted.roundedMantissa ∧
      shifted.roundedMantissa ≤ shifted.mantissa + 1 ∧
        ((shifted.roundBit || shifted.stickyBit) = false →
          shifted.roundedMantissa = shifted.mantissa) := by
  obtain ⟨mantissa, roundBit, stickyBit⟩ := shifted
  cases roundBit <;> cases stickyBit <;>
    simp [ExtendedMantissa.roundedMantissa, ExtendedMantissa.accuracy,
      Accuracy.roundToNearestEven]
  -- What is left is the tie, which goes to the even one of both.
  omega

/-- The mantissa that is left when so many bits of another one are rounded away. -/
def roundedMantissa (written shift : Nat) : Nat :=
  (ExtendedMantissa.ofMantissaAndAccuracy written .exact >>> shift).roundedMantissa

/-- Rounding a shifted mantissa goes less than one step away from the exact quotient. -/
theorem rounded_mantissa_bounds (written shift : Nat) :
    written / 2 ^ shift ≤ roundedMantissa written shift ∧
      roundedMantissa written shift ≤ written / 2 ^ shift + 1 ∧
        roundedMantissa written shift * 2 ^ shift < written + 2 ^ shift := by
  unfold roundedMantissa
  have hmantissa := shift_right_mantissa (.ofMantissaAndAccuracy written .exact) shift
  have hrest := shift_right_rest written shift
  dsimp only at hrest ⊢
  generalize ExtendedMantissa.ofMantissaAndAccuracy written .exact >>> shift = shifted
    at hmantissa hrest ⊢
  obtain ⟨hlow, hhigh, hexact⟩ := rounded_mantissa_cases shifted
  have hquotient : shifted.mantissa = written / 2 ^ shift := hmantissa
  have hdivision := Nat.div_add_mod' written (2 ^ shift)
  have hpower := Nat.two_pow_pos shift
  rw [← hquotient] at hdivision ⊢
  refine ⟨hlow, hhigh, ?_⟩
  by_cases hnone : written % 2 ^ shift = 0
  · rw [hexact (by rw [hrest]; exact decide_eq_false (not_not.mpr hnone))]
    omega
  · have hstep := Nat.mul_le_mul_right (2 ^ shift) hhigh
    rw [Nat.succ_mul] at hstep
    omega

/-! ### Rounding -/

section Aligned

variable {written shift mantissa : Nat} {place exponent : Int} {low high : ℚ}
  (htarget : spec.targetExponent (totalExponent written place) = place + shift)
  (hpositive : 0 < written)

include htarget in
/-- The bits that are not rounded away are no more than those of the format. -/
theorem quotient_lt : written / 2 ^ shift < 2 ^ spec.mantissaBits := by
  rw [Nat.div_lt_iff_lt_mul (Nat.two_pow_pos shift), ← pow_add]
  simp only [Format.targetExponent, totalExponent] at htarget
  exact Nat.lt_log2_self.trans_le (Nat.pow_le_pow_right (by decide) (by omega))

include htarget hpositive

/-- They are as many, unless the exponent is the smallest one. -/
theorem quotient_full :
    2 ^ spec.mantissaBitsWithoutImplicit ≤ written / 2 ^ shift
      ∨ place + shift = spec.minExponent := by
  rw [Nat.le_div_iff_mul_le (Nat.two_pow_pos shift), ← pow_add, ← Nat.le_log2 hpositive.ne']
  simp only [Format.targetExponent, totalExponent, Format.mantissaBits] at htarget
  omega

/-- Numbers that are held have the exponent of the rounded one or a higher one, unless they are
smaller. -/
theorem aligned_le (form : IsCanonical spec mantissa exponent)
    (h : ((written / 2 ^ shift : Nat) : ℚ) * 2 ^ (place + shift) ≤ mantissa * 2 ^ exponent) :
    place + shift ≤ exponent := by
  rcases quotient_full htarget hpositive with hfull | hsmallest
  · by_contra hlower
    obtain ⟨extra, hextra⟩ := Int.le.dest (not_le.mp hlower).le
    have hbits := form.bits
    have hstep : 2 ≤ 2 ^ extra := Nat.le_self_pow (by omega) 2
    rw [Format.mantissaBits, Nat.add_comm, pow_succ] at hbits
    rw [← hextra, value_shifted, mul_le_mul_iff_of_pos_right (zpow_pos two_pos exponent),
      Nat.cast_le] at h
    exact absurd (h.trans_lt hbits) (not_lt.mpr (Nat.mul_le_mul hfull hstep))
  · rw [hsmallest]
    exact form.lowest

/-- A number that is held and not below the exact one has a form with the exponent of the rounded
one or a higher one. -/
theorem exists_form_above (hhigh : Holds spec high) (h : (written : ℚ) * 2 ^ place ≤ high) :
    ∃ mantissa extra : Nat, IsCanonical spec mantissa (place + shift + extra) ∧
      high = (mantissa * 2 ^ extra : Nat) * 2 ^ (place + shift) := by
  have hsome := (value_pos hpositive place).trans_le h
  obtain ⟨mantissa, exponent, form, hform⟩ := hhigh.exists_form hsome.ne'
  rw [abs_of_pos hsome] at hform
  have hquotient :
      ((written / 2 ^ shift : Nat) : ℚ) * 2 ^ (place + shift) ≤ written * 2 ^ place := by
    rw [value_shifted]
    exact mul_le_mul_of_nonneg_right (Nat.cast_le.mpr (Nat.div_mul_le_self _ _))
      (zpow_pos two_pos place).le
  obtain ⟨extra, rfl⟩ :=
    Int.le.dest (aligned_le htarget hpositive form (hform ▸ hquotient.trans h))
  exact ⟨mantissa, extra, form, hform.trans (value_shifted mantissa extra _)⟩

/-- No number that is held is below the rounded one without being below the exact one. -/
theorem rounded_le (hhigh : Holds spec high) (h : (written : ℚ) * 2 ^ place ≤ high) :
    (roundedMantissa written shift : ℚ) * 2 ^ (place + shift) ≤ high := by
  obtain ⟨mantissa, extra, form, rfl⟩ := exists_form_above htarget hpositive hhigh h
  rw [value_shifted, mul_le_mul_iff_of_pos_right (zpow_pos two_pos place), Nat.cast_le] at h
  refine mul_le_mul_of_nonneg_right (Nat.cast_le.mpr ?_) (zpow_pos two_pos _).le
  have hless := (rounded_mantissa_bounds written shift).2.2.trans_le (Nat.add_le_add_right h _)
  rw [← Nat.succ_mul] at hless
  exact Nat.le_of_lt_succ (lt_of_mul_lt_mul_right hless (Nat.zero_le _))

/-- No number that is held is above the rounded one without being above the exact one. -/
theorem le_rounded (hlow : Holds spec low) (h : low ≤ written * 2 ^ place) :
    low ≤ (roundedMantissa written shift : ℚ) * 2 ^ (place + shift) := by
  have hplace := zpow_pos (two_pos (α := ℚ)) place
  have hpower := zpow_pos (two_pos (α := ℚ)) (place + shift)
  rcases le_or_gt low 0 with hnone | hsome
  · exact hnone.trans (mul_nonneg (Nat.cast_nonneg _) hpower.le)
  obtain ⟨mantissa, exponent, form, hform⟩ := hlow.exists_form hsome.ne'
  rw [abs_of_pos hsome] at hform
  have hquotient : low ≤ ((written / 2 ^ shift : Nat) : ℚ) * 2 ^ (place + shift) := by
    by_contra hgreater
    have hgreater := not_le.mp hgreater
    obtain ⟨extra, hextra⟩ :=
      Int.le.dest (aligned_le htarget hpositive form (hform ▸ hgreater.le))
    rw [hform, ← hextra, value_shifted mantissa] at hgreater h
    rw [mul_lt_mul_iff_of_pos_right hpower, Nat.cast_lt] at hgreater
    rw [value_shifted, mul_le_mul_iff_of_pos_right hplace, Nat.cast_le] at h
    exact absurd ((Nat.le_div_iff_mul_le (Nat.two_pow_pos shift)).mpr h) (not_le.mpr hgreater)
  exact hquotient.trans (mul_le_mul_of_nonneg_right
    (Nat.cast_le.mpr (rounded_mantissa_bounds written shift).1) hpower.le)

/-- The format holds the rounded number if it holds one that is not below the exact one. -/
theorem holds_rounded (hhigh : Holds spec high) (h : (written : ℚ) * 2 ^ place ≤ high) :
    Holds spec ((roundedMantissa written shift : ℚ) * 2 ^ (place + shift)) := by
  have hrounded := rounded_le htarget hpositive hhigh h
  obtain ⟨mantissa, extra, form, rfl⟩ := exists_form_above htarget hpositive hhigh h
  have hhighest := form.highest
  have hlowest : spec.minExponent ≤ place + shift := htarget ▸ le_max_right _ _
  by_cases hfits : roundedMantissa written shift < 2 ^ spec.mantissaBits
  · have hheld : Holds spec ((roundedMantissa written shift : Int) * 2 ^ (place + shift)) :=
      holds_dyadic hfits hlowest (by omega)
    exact_mod_cast hheld
  · -- One bit more than the format has: the next power of two.
    have hbits := form.bits
    have hquotient := quotient_lt htarget
    have hnear := (rounded_mantissa_bounds written shift).2.1
    have hpower : 2 ^ spec.mantissaBits = 2 ^ spec.mantissaBitsWithoutImplicit * 2 ^ 1 := by
      rw [← pow_add, Format.mantissaBits, Nat.add_comm]
    have hnext : roundedMantissa written shift = 2 ^ spec.mantissaBitsWithoutImplicit * 2 ^ 1 := by
      omega
    have hmore : 0 < extra := by
      refine Nat.pos_of_ne_zero fun hnone ↦ ?_
      rw [hnone, pow_zero, Nat.mul_one, mul_le_mul_iff_of_pos_right (zpow_pos two_pos _),
        Nat.cast_le] at hrounded
      omega
    have hless : 2 ^ spec.mantissaBitsWithoutImplicit < 2 ^ spec.mantissaBits :=
      Nat.pow_lt_pow_right (by decide) (by rw [Format.mantissaBits]; omega)
    have hheld : Holds spec
        ((2 ^ spec.mantissaBitsWithoutImplicit : Nat) * 2 ^ (place + shift + (1 : Nat))) := by
      rw [← Int.cast_natCast]
      exact holds_dyadic hless (by omega) (by omega)
    rwa [value_shifted, ← hnext] at hheld

/-- The rounded number is what rounding gives. -/
theorem round_with_accuracy_has_value
    (h : Holds spec ((roundedMantissa written shift : ℚ) * 2 ^ (place + shift))) :
    HasValue spec (roundWithAccuracy spec .positive written place .exact)
      ((roundedMantissa written shift : ℚ) * 2 ^ (place + shift)) := by
  have hshift : (place + shift - place).toNat = shift := by omega
  have hquotient : ((written / 2 ^ shift : Nat) : ℚ) * 2 ^ (place + shift)
      ≤ roundedMantissa written shift * 2 ^ (place + shift) :=
    mul_le_mul_of_nonneg_right (Nat.cast_le.mpr (rounded_mantissa_bounds written shift).1)
      (zpow_pos two_pos _).le
  have hfirst : shiftToTargetExponent spec written place .exact
      = (ExtendedMantissa.ofMantissaAndAccuracy written .exact >>> shift, place + shift) := by
    unfold shiftToTargetExponent shiftToExponent
    simp only [htarget, hshift]
  have hsecond : (shiftToTargetExponent spec written place .exact).1.roundedMantissa
      = roundedMantissa written shift := by
    rw [hfirst]
    rfl
  unfold roundWithAccuracy
  simp only [hfirst] at hsecond ⊢
  simp only [hsecond]
  generalize roundedMantissa written shift = rounded at h hquotient hsecond ⊢
  rcases Nat.eq_zero_or_pos rounded with rfl | hsome
  · have hnone : (shiftToTargetExponent spec 0 (place + shift) .exact).1.mantissa = 0 :=
      (shift_right_mantissa _ _).trans (Nat.zero_div _)
    rw [dif_pos hnone, Nat.cast_zero, zero_mul]
    exact .zero .positive
  · have hvalue := value_pos hsome (place + shift)
    obtain ⟨mantissa, exponent, form, hform⟩ := h.exists_form hvalue.ne'
    rw [abs_of_pos hvalue] at hform
    have hle := aligned_le htarget hpositive form (hform ▸ hquotient)
    have hexponent : exponent - (exponent - (place + shift)).toNat = place + shift := by omega
    have htwice := shift_to_target_exact form (exponent - (place + shift)).toNat
    rw [← mantissa_eq_of_value hle hform, hexponent] at htwice
    simp only [htwice]
    rw [dif_neg form.positive.ne', hform]
    exact .finite .positive form

end Aligned

/-! ### Operations -/

section Operations

variable {low high : ℚ} (hlow : Holds spec low) (hhigh : Holds spec high)

include hlow hhigh

/-- A positive number between two that are held is rounded to one between them. -/
theorem round_between {written : Nat} {place : Int} (hpositive : 0 < written)
    (hbelow : low ≤ written * 2 ^ place) (habove : (written : ℚ) * 2 ^ place ≤ high) :
    ∃ number, HasValue spec (UnpackedFloat.round spec .positive written place) number ∧
      low ≤ number ∧ number ≤ high := by
  obtain ⟨target, htarget⟩ :
      ∃ target, target = spec.targetExponent (totalExponent written place) := ⟨_, rfl⟩
  obtain ⟨more, hmore⟩ : ∃ more : Nat, more = (place - target).toNat := ⟨_, rfl⟩
  obtain ⟨shift, hshift⟩ : ∃ shift : Nat, target = place - more + shift :=
    ⟨(target - (place - more)).toNat, by omega⟩
  have hvalue : (written : ℚ) * 2 ^ place = (written * 2 ^ more : Nat) * 2 ^ (place - more) := by
    rw [← value_shifted, Int.sub_add_cancel]
  have hshifted := total_exponent_shifted hpositive place more
  have haligned := (congrArg spec.targetExponent hshifted).trans (htarget.symm.trans hshift)
  have hsome : 0 < written * 2 ^ more := Nat.mul_pos hpositive (Nat.two_pow_pos more)
  rw [hvalue] at hbelow habove
  refine ⟨_, ?_, le_rounded haligned hsome hlow hbelow, rounded_le haligned hsome hhigh habove⟩
  unfold UnpackedFloat.round decreaseExponent
  simp only [← htarget, ← hmore, Nat.shiftLeft_eq]
  exact round_with_accuracy_has_value haligned hsome (holds_rounded haligned hsome hhigh habove)

/-- So is a positive mantissa with a sign that is brought into form. -/
theorem normalize_between {count place : Int} (zeroSign : Sign) (hpositive : 0 < count)
    (hbelow : low ≤ count * 2 ^ place) (habove : (count : ℚ) * 2 ^ place ≤ high) :
    ∃ number, HasValue spec (UnpackedFloat.normalize spec count place zeroSign) number ∧
      low ≤ number ∧ number ≤ high := by
  obtain ⟨written, rfl⟩ := Int.eq_ofNat_of_zero_le hpositive.le
  unfold UnpackedFloat.normalize
  rw [Int.compare_eq_gt.mpr hpositive]
  exact round_between hlow hhigh (Int.natCast_pos.mp hpositive) (by exact_mod_cast hbelow)
    (by exact_mod_cast habove)

/-- A positive sum between two numbers that are held is rounded to a number between them. -/
theorem HasValue.add_between {left right : UnpackedFloat} {first second : ℚ}
    (hleft : HasValue spec left first) (hright : HasValue spec right second)
    (hpositive : 0 < first + second) (hbelow : low ≤ first + second)
    (habove : first + second ≤ high) :
    ∃ number, HasValue spec (left.add spec right) number ∧ low ≤ number ∧ number ≤ high := by
  cases hleft with
  | zero sign =>
      rw [zero_add] at hpositive hbelow habove
      cases hright with
      | zero other => exact absurd hpositive (lt_irrefl 0)
      | finite other shape => exact ⟨_, .finite other shape, hbelow, habove⟩
  | @finite sign mantissa exponent form =>
      cases hright with
      | zero other =>
          rw [add_zero] at hbelow habove
          exact ⟨_, .finite sign form, hbelow, habove⟩
      | @finite other count place shape =>
          rw [← decrease_exponent_value sign mantissa (min_le_left exponent place),
            ← decrease_exponent_value other count (min_le_right exponent place), ← add_mul,
            ← Int.cast_add] at hpositive hbelow habove
          have hcount := pos_of_mul_pos_left hpositive (zpow_pos two_pos _).le
          exact normalize_between hlow hhigh .positive (Int.cast_pos.mp hcount) hbelow habove

end Operations

end Panorama.Number
