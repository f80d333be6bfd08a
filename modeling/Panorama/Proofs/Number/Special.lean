import Panorama.Proofs.Number.Value

/-!
# Infinities and NaN

Where NaN comes from: of finite numbers, sums and products may overflow to an infinity and are never
NaN, and neither are sums with one finite operand and products with a finite operand that is not
zero. Bringing a number between two bounds takes the infinities away.
-/

namespace Panorama.Number

open Float.Model (UnpackedFloat Format)
open Float.Model.UnpackedFloat

variable {spec : Format} {left right value : UnpackedFloat}

/-- The value is a number or an infinity. -/
def IsNumber (value : UnpackedFloat) : Prop := value.isNaN = false

/-- A finite value is a number. -/
theorem number_of_finite (h : value.isFinite) : IsNumber value := by
  cases value with
  | infinity sign => cases h
  | notANumber => cases h
  | zero sign => rfl
  | finite _ _ _ _ => rfl

/-! ### Rounding and packing -/

/-- Rounding gives a number. -/
theorem round_with_accuracy_number (spec : Format) (sign : Sign) (mantissa : Nat) (exponent : Int)
    (accuracy : Accuracy) : IsNumber (roundWithAccuracy spec sign mantissa exponent accuracy) := by
  unfold roundWithAccuracy
  dsimp only
  split
  · rfl
  · rfl

/-- So does bringing a signed mantissa into form. -/
theorem normalize_number (spec : Format) (mantissa exponent : Int) (sign : Sign) :
    IsNumber (UnpackedFloat.normalize spec mantissa exponent sign) := by
  unfold UnpackedFloat.normalize
  split
  · exact round_with_accuracy_number _ _ _ _ _
  · rfl
  · exact round_with_accuracy_number _ _ _ _ _

/-- Another format has a number, or an infinity, for a number. -/
theorem reround_number (format : Format) (h : IsNumber value) :
    IsNumber (reround format value) := by
  cases value with
  | finite sign mantissa exponent _ => exact round_with_accuracy_number _ _ _ _ _
  | infinity sign => exact h
  | zero sign => exact h
  | notANumber => exact h

/-- A word whose exponent is not the largest one is that of a number. -/
theorem unpack_number {sign : Sign} {exponent : BitVec spec.exponentBits}
    {mantissa : BitVec spec.mantissaBitsWithoutImplicit} (hexponent : exponent ≠ -1#_) :
    IsNumber (unpack spec (packComponents spec sign exponent mantissa)) := by
  unfold unpack
  simp only [unpackExponent_packComponents, unpackMantissa_packComponents]
  rw [if_neg hexponent]
  split
  · split
    · rfl
    · rfl
  · rfl

/-- The word of an infinity is that of an infinity. -/
theorem unpack_infinity_number (sign : Sign) :
    IsNumber (unpack spec (packedInfinity spec sign)) := by
  unfold unpack packedInfinity
  simp only [unpackExponent_packComponents, unpackMantissa_packComponents]
  rfl

/-- A number does not become NaN in its word. -/
theorem unpack_pack_number (h : IsNumber value) : IsNumber (unpack spec (pack spec value)) := by
  have hpower : 2 ^ 1 ≤ 2 ^ spec.exponentBits := Nat.pow_le_pow_right (by omega) spec.he
  have hzero : BitVec.ofNat spec.exponentBits 0 ≠ -1#_ := exponent_not_largest (by omega)
  cases value with
  | notANumber => cases h
  | infinity sign => exact unpack_infinity_number sign
  | zero sign => exact unpack_number hzero
  | finite sign mantissa exponent _ =>
      unfold pack
      dsimp only
      split
      · exact unpack_infinity_number sign
      · rename_i hbiased
        split
        · exact unpack_number (exponent_not_largest hbiased)
        · exact unpack_number hzero

/-! ### Operations -/

/-- The opposite of a value is finite if the value is, and a number if the value is. -/
theorem opposite_alike (value : UnpackedFloat) :
    value.neg.isFinite = value.isFinite ∧ value.neg.isNaN = value.isNaN := by
  cases value <;> exact ⟨rfl, rfl⟩

/-- Two numbers of which one is finite have a sum. -/
theorem add_number (hleft : IsNumber left) (hright : IsNumber right)
    (h : left.isFinite ∨ right.isFinite) : IsNumber (left.add spec right) := by
  cases left with
  | notANumber => cases hleft
  | infinity sign =>
      rcases h with hfinite | hfinite
      · cases hfinite
      · cases right with
        | notANumber => cases hfinite
        | infinity _ => cases hfinite
        | zero _ => rfl
        | finite _ _ _ _ => rfl
  | zero sign =>
      cases right with
      | notANumber => cases hright
      | infinity _ => rfl
      | zero other => cases sign <;> cases other <;> rfl
      | finite _ _ _ _ => rfl
  | finite sign mantissa exponent _ =>
      cases right with
      | notANumber => cases hright
      | infinity _ => rfl
      | zero _ => rfl
      | finite _ _ _ _ => exact normalize_number _ _ _ _

/-- A number and a finite one have a difference. -/
theorem sub_number (hleft : IsNumber left) (hright : right.isFinite) :
    IsNumber (left.sub spec right) := by
  obtain ⟨hfinite, hnumber⟩ := opposite_alike right
  rw [sub_eq_add_opposite]
  exact add_number hleft (hnumber.trans (number_of_finite hright)) (.inr (hfinite.trans hright))

/-- A number and a finite one that is not zero have a product. -/
theorem mul_number {sign : Sign} {mantissa : Nat} {exponent : Int} {hmantissa : 0 < mantissa}
    (hright : IsNumber right) :
    IsNumber (UnpackedFloat.mul spec (.finite sign mantissa exponent hmantissa) right) := by
  cases right with
  | notANumber => cases hright
  | infinity _ => rfl
  | zero _ => rfl
  | finite _ _ _ _ => exact round_with_accuracy_number _ _ _ _ _

/-- A number that is neither below a finite one nor above one is finite. -/
theorem finite_of_between (hleft : left.isFinite) (hright : right.isFinite)
    (hvalue : IsNumber value) (hbelow : ¬value.lt left) (habove : ¬right.lt value) :
    value.isFinite := by
  cases value with
  | notANumber => cases hvalue
  | zero sign => rfl
  | finite _ _ _ _ => rfl
  | infinity sign =>
      cases sign with
      | negative =>
          cases left with
          | notANumber => cases hleft
          | infinity _ => cases hleft
          | zero _ => exact absurd rfl hbelow
          | finite _ _ _ _ => exact absurd rfl hbelow
      | positive =>
          cases right with
          | notANumber => cases hright
          | infinity _ => cases hright
          | zero _ => exact absurd rfl habove
          | finite side _ _ _ => cases side <;> exact absurd rfl habove

/-! ### Singles -/

/-- The single nearest to a finite double is a number or an infinity. -/
theorem narrow_number {value : Float} (h : value.isFinite) :
    IsNumber (narrow value).toModel.unpack := by
  refine unpack_pack_number (reround_number .binary32 ?_)
  exact number_of_finite h

/-- A single above zero that is at most one is finite. -/
theorem finite_of_share {share : Float32} (hpositive : 0 < share) (hone : share ≤ 1) :
    share.isFinite := by
  have hless : UnpackedFloat.lt (0 : Float32).toModel.unpack share.toModel.unpack :=
    of_decide_eq_true hpositive
  have hmost : UnpackedFloat.le share.toModel.unpack (1 : Float32).toModel.unpack :=
    of_decide_eq_true hone
  show share.toModel.unpack.isFinite
  generalize share.toModel.unpack = unpacked at hless hmost ⊢
  cases unpacked with
  | notANumber => cases hless
  | zero sign => rfl
  | finite _ _ _ _ => rfl
  | infinity sign =>
      cases sign with
      | negative => cases hless
      | positive => cases hmost

/-- A finite share of the way from a finite single to any other single that is not NaN leads to a
number or an infinity. -/
theorem step_number {start share target : Float32} (hstart : start.isFinite)
    (hshare : share.isFinite) (hpositive : 0 < share) (htarget : IsNumber target.toModel.unpack) :
    IsNumber (start + share * (target - start)).toModel.unpack := by
  have hdifference : IsNumber (target - start).toModel.unpack :=
    unpack_pack_number (sub_number htarget hstart)
  have hproduct : IsNumber (share * (target - start)).toModel.unpack := by
    refine unpack_pack_number ?_
    have hless : UnpackedFloat.lt (0 : Float32).toModel.unpack share.toModel.unpack :=
      of_decide_eq_true hpositive
    have hfinite : share.toModel.unpack.isFinite := hshare
    generalize share.toModel.unpack = unpacked at hless hfinite ⊢
    cases unpacked with
    | notANumber => cases hfinite
    | infinity _ => cases hfinite
    | zero sign => cases hless
    | finite _ _ _ _ => exact mul_number hdifference
  exact unpack_pack_number (add_number (number_of_finite hstart) hproduct (.inl hstart))

end Panorama.Number
