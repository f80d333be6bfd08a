import Mathlib
import Panorama.Number.Exact

/-!
# The order of finite floats

Finite floats are ordered like their sign, exponent and mantissa, read in this order and turned
around for negative numbers. So whatever holds of a linear order holds of finite floats.
-/

namespace Panorama.Number

open Float.Model (UnpackedFloat)

/-- Where a finite float stands in the order: sign, exponent and mantissa. -/
def orderKey : UnpackedFloat → ℤ ×ₗ ℤ ×ₗ ℤ
  | .finite .positive mantissa exponent _ => toLex (1, toLex (exponent, mantissa))
  | .finite .negative mantissa exponent _ => toLex (-1, toLex (-exponent, -mantissa))
  | _ => toLex (0, toLex (0, 0))

/-- A finite float is below another one as its key is. -/
theorem unpacked_lt_iff {left right : UnpackedFloat} (hleft : left.isFinite)
    (hright : right.isFinite) : left.lt right ↔ orderKey left < orderKey right := by
  cases left with
  | infinity sign => cases hleft
  | notANumber => cases hleft
  | zero sign =>
      cases right with
      | infinity sign => cases hright
      | notANumber => cases hright
      | zero _ => simp [UnpackedFloat.lt, UnpackedFloat.compare, orderKey]
      | finite sign _ _ _ =>
          cases sign <;>
            simp [UnpackedFloat.lt, UnpackedFloat.compare, orderKey, Prod.Lex.toLex_lt_toLex]
  | finite sign mantissa exponent _ =>
      cases right with
      | infinity sign => cases hright
      | notANumber => cases hright
      | zero _ =>
          cases sign <;>
            simp [UnpackedFloat.lt, UnpackedFloat.compare, orderKey, Prod.Lex.toLex_lt_toLex]
      | finite sign' mantissa' exponent' _ =>
          -- Only numbers of one sign are compared by exponent and mantissa.
          cases sign <;> cases sign'
          · simp only [UnpackedFloat.lt, UnpackedFloat.compare, orderKey, beq_iff_eq,
              Option.some.injEq, Ordering.swap_eq_lt, Prod.Lex.toLex_lt_toLex, lt_irrefl, true_and,
              false_or, neg_lt_neg_iff, neg_inj, Nat.cast_lt]
            rw [Ordering.then_eq_gt, compare_gt_iff_gt, compare_eq_iff_eq, compare_gt_iff_gt]
          · simp [UnpackedFloat.lt, UnpackedFloat.compare, orderKey, Prod.Lex.toLex_lt_toLex]
          · simp [UnpackedFloat.lt, UnpackedFloat.compare, orderKey, Prod.Lex.toLex_lt_toLex]
          · simp only [UnpackedFloat.lt, UnpackedFloat.compare, orderKey, beq_iff_eq,
              Option.some.injEq, Prod.Lex.toLex_lt_toLex, lt_irrefl, true_and, false_or,
              Nat.cast_lt]
            rw [Ordering.then_eq_lt, compare_lt_iff_lt, compare_eq_iff_eq, compare_lt_iff_lt]

/-- Where a single stands in the order. -/
def singleKey (value : Float32) : ℤ ×ₗ ℤ ×ₗ ℤ :=
  orderKey value.toModel.unpack

/-- A finite single is below another one as its key is. -/
theorem single_lt_iff {left right : Float32} (hleft : left.isFinite) (hright : right.isFinite) :
    left < right ↔ singleKey left < singleKey right := by
  rw [singleKey, singleKey, ← unpacked_lt_iff hleft hright]
  exact decide_eq_true_iff

/-- Comparing two finite floats the other way around turns the result around. -/
theorem compare_swap {left right : UnpackedFloat} (hleft : left.isFinite)
    (hright : right.isFinite) :
    ∃ order, left.compare right = some order ∧ right.compare left = some order.swap := by
  cases left with
  | infinity sign => cases hleft
  | notANumber => cases hleft
  | zero sign =>
      cases right with
      | infinity sign => cases hright
      | notANumber => cases hright
      | zero _ => exact ⟨.eq, rfl, rfl⟩
      | finite sign _ _ _ => cases sign <;> exact ⟨_, rfl, rfl⟩
  | finite sign mantissa exponent _ =>
      cases right with
      | infinity sign => cases hright
      | notANumber => cases hright
      | zero _ => cases sign <;> exact ⟨_, rfl, rfl⟩
      | finite sign' mantissa' exponent' _ =>
          have hswap : (compare exponent' exponent).then (compare mantissa' mantissa)
              = ((compare exponent exponent').then (compare mantissa mantissa')).swap := by
            rw [Ordering.swap_then, ← Std.OrientedOrd.eq_swap, ← Std.OrientedOrd.eq_swap]
          cases sign <;> cases sign' <;> refine ⟨_, rfl, ?_⟩
          · exact congrArg (some ·.swap) hswap
          · rfl
          · rfl
          · exact congrArg some hswap

/-- A finite float is at most another one unless that is below it. -/
theorem unpacked_le_iff {left right : UnpackedFloat} (hleft : left.isFinite)
    (hright : right.isFinite) : left.le right ↔ ¬ right.lt left := by
  obtain ⟨order, horder, hswap⟩ := compare_swap hleft hright
  rw [UnpackedFloat.le, UnpackedFloat.lt, horder, hswap]
  cases order <;> decide

/-- A finite single is at most another one as its key is. -/
theorem single_le_iff {left right : Float32} (hleft : left.isFinite) (hright : right.isFinite) :
    left ≤ right ↔ singleKey left ≤ singleKey right := by
  rw [← not_lt, ← single_lt_iff hright hleft]
  have hle : left ≤ right ↔ left.toModel.unpack.le right.toModel.unpack := decide_eq_true_iff
  have hlt : right < left ↔ right.toModel.unpack.lt left.toModel.unpack := decide_eq_true_iff
  rw [hle, hlt, unpacked_le_iff hleft hright]

end Panorama.Number
