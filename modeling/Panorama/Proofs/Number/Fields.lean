import Mathlib
import Panorama.Number.Arithmetic

/-!
# Exact arithmetic

The formulas over `Arithmetic` can be read in any ordered field, in which nothing is rounded. The
reading is no global instance: a module that uses it makes it one for itself, and makes sure that
the operations are written as those of the field.
-/

namespace Panorama

variable {K : Type} [Field K] [LinearOrder K] [IsStrictOrderedRing K] [FloorRing K]

/-- The arithmetic of an ordered field. -/
@[reducible] def Arithmetic.exact (K : Type) [Field K] [LinearOrder K] [IsStrictOrderedRing K]
    [FloorRing K] : Arithmetic K where
  add := (· + ·)
  sub := (· - ·)
  mul := (· * ·)
  div := (· / ·)
  neg := (-·)
  ofInt value := value
  floor := Int.floor
  less left right := left < right
  same left right := left = right

namespace Arithmetic

attribute [local instance] Arithmetic.exact
attribute [local instance (10)] Arithmetic.toAdd Arithmetic.toSub Arithmetic.toMul Arithmetic.toDiv
  Arithmetic.toNeg

/-- Nothing is zero. -/
@[simp] theorem exact_zero : (zero : K) = 0 := Int.cast_zero

/-- One is one. -/
@[simp] theorem exact_one : (one : K) = 1 := Int.cast_one

/-- Integers are themselves. -/
@[simp] theorem exact_of_int (value : Int) : (ofInt value : K) = value := rfl

/-- So is what is below a number. -/
@[simp] theorem exact_floor (value : K) : floor value = ⌊value⌋ := rfl

/-- The order is that of the field. -/
@[simp] theorem exact_less {left right : K} : less left right = true ↔ left < right :=
  decide_eq_true_iff

/-- Equality is equality. -/
@[simp] theorem exact_same {left right : K} : same left right = true ↔ left = right :=
  decide_eq_true_iff

/-- The distance from zero is the absolute value. -/
@[simp] theorem exact_abs (value : K) : abs value = |value| := by
  unfold abs
  rw [exact_zero]
  split
  · rename_i hnegative
    exact (abs_of_neg (exact_less.mp hnegative)).symm
  · rename_i hpositive
    exact (abs_of_nonneg (not_lt.mp (mt exact_less.mpr hpositive))).symm

end Arithmetic

end Panorama
