import Panorama.Number.Arithmetic
import Panorama.Number.Byte
import Panorama.Proofs.Number.Value

/-!
# Singles that are numbers

`Equals` says which number a single is. It is kept by every operation whose exact result is held,
and small integers are held. So a formula over singles can be computed as one over numbers as long
as its intermediate results are small integers, down to the byte that `roundToByte` makes of it.
-/

namespace Panorama.Number

open Float.Model (UnpackedFloat)
open Float.Model.UnpackedFloat

variable {value left right : Float32} {number first second : ℚ}

/-- A single is a number. -/
def Equals (value : Float32) (number : ℚ) : Prop :=
  HasValue .binary32 value.toModel.unpack number

namespace Equals

/-- Every finite single is a number. -/
theorem of_finite (h : value.isFinite) : ∃ number, Equals value number :=
  exists_value_of_unpack (by decide) h

/-- The number of a single is held. -/
theorem held (h : Equals value number) : Holds .binary32 number := ⟨_, h⟩

/-! ### Operations -/

/-- A sum that is held is exact. -/
theorem add (hleft : Equals left first) (hright : Equals right second)
    (hsum : first + second = number) (h : Holds .binary32 number) :
    Equals (left + right) number := by
  subst hsum
  exact (HasValue.add hleft hright h).packed

/-- A difference that is held is exact. -/
theorem sub (hleft : Equals left first) (hright : Equals right second)
    (hdifference : first - second = number) (h : Holds .binary32 number) :
    Equals (left - right) number := by
  subst hdifference
  exact (HasValue.sub hleft hright h).packed

/-- A product that is held is exact. -/
theorem mul (hleft : Equals left first) (hright : Equals right second)
    (hproduct : first * second = number) (h : Holds .binary32 number) :
    Equals (left * right) number := by
  subst hproduct
  exact (HasValue.mul hleft hright h).packed

/-- A quotient that is held is exact. -/
theorem div (hleft : Equals left first) (hright : Equals right second) (hnonzero : second ≠ 0)
    (hquotient : first / second = number) (h : Holds .binary32 number) :
    Equals (left / right) number := by
  subst hquotient
  exact (HasValue.div hleft hright hnonzero h).packed

/-- The opposite is exact. -/
theorem neg (h : Equals value number) : Equals (-value) (-number) :=
  (HasValue.neg h).packed

/-! ### Comparison -/

/-- Singles are ordered like the numbers that they are. -/
theorem lt_iff (hleft : Equals left first) (hright : Equals right second) :
    left < right ↔ first < second :=
  decide_eq_true_iff.trans (HasValue.lt_iff hleft hright)

/-- A single is at most another one if its number is. -/
theorem le_iff (hleft : Equals left first) (hright : Equals right second) :
    left ≤ right ↔ first ≤ second :=
  decide_eq_true_iff.trans (HasValue.le_iff hleft hright)

/-- A single that is a number is not NaN. -/
theorem not_nan (h : Equals value number) : value.isNaN = false :=
  HasValue.not_nan h

/-- A single that compares equal to a number is that number. -/
theorem of_beq (h : left == right) (hright : Equals right number) : Equals left number :=
  HasValue.of_beq h hright

/-- Whether a single is below another one is whether its number is. -/
theorem less_eq (hleft : Equals left first) (hright : Equals right second) :
    Arithmetic.less left right = decide (first < second) :=
  Bool.decide_congr (hleft.lt_iff hright)

/-- The largest integer that is not above a single is that of its number. -/
theorem floor_eq (h : Equals value number) : Arithmetic.floor value = ⌊number⌋ :=
  HasValue.floor_eq h

/-- The distance from zero is exact. -/
theorem abs (h : Equals value number) (hzero : Equals Arithmetic.zero 0) :
    Equals (Arithmetic.abs value) |number| := by
  unfold Arithmetic.abs
  rw [h.less_eq hzero]
  by_cases hnegative : number < 0
  · rw [decide_eq_true hnegative, abs_of_neg hnegative]
    exact h.neg
  · rw [decide_eq_false hnegative, abs_of_nonneg (not_lt.mp hnegative)]
    exact h

end Equals

/-! ### Small integers -/

/-- Integers of 24 bits are held. -/
theorem holds_int (count : Int) (h : count.natAbs < 2 ^ 24) : Holds .binary32 count := by
  have hheld : Holds .binary32 (count * 2 ^ (0 : Int)) := holds_dyadic h (by decide) (by decide)
  rwa [zpow_zero, mul_one] at hheld

/-- So are their halves. -/
theorem holds_half (count : Int) (h : count.natAbs < 2 ^ 24) : Holds .binary32 (count / 2) := by
  have hheld : Holds .binary32 (count * 2 ^ (-1 : Int)) := holds_dyadic h (by decide) (by decide)
  rwa [zpow_neg_one, ← div_eq_mul_inv] at hheld

/-- So is what lies half above a small natural number. -/
theorem holds_half_above (count : Nat) (h : count < 2 ^ 23) :
    Holds .binary32 ((count : ℚ) + 1 / 2) := by
  have hheld := holds_half (2 * count + 1) (by omega)
  push_cast at hheld
  convert hheld using 1
  ring

/-- It has this number below it. -/
theorem floor_half_above (count : Nat) : ⌊(count : ℚ) + 1 / 2⌋ = count := by
  rw [Int.floor_natCast_add]
  norm_num

/-- A positive single is its mantissa times a power of two. -/
theorem equals_positive (mantissa : Nat) (exponent : Int)
    (form : IsCanonical .binary32 mantissa exponent)
    (h : value.toModel.unpack = .finite .positive mantissa exponent form.positive)
    (hnumber : mantissa * 2 ^ exponent = number) : Equals value number := by
  have hvalue := HasValue.finite .positive form
  rw [← h] at hvalue
  rwa [show (Sign.positive.apply mantissa : Int) = mantissa from rfl, Int.cast_natCast, hnumber]
    at hvalue

/-- The single of an integer of 23 bits is exact. -/
theorem equals_nat (count : Nat) (h : count < 2 ^ 23) : Equals (.ofNat count) count := by
  have hword : count.toUInt64.toNat = count :=
    Nat.mod_eq_of_lt (h.trans (by decide))
  have hsingle : Equals count.toUInt64.toFloat32 count := by
    have hheld : Holds .binary32 ((count : Int) * 2 ^ (0 : Int)) := by
      simpa using holds_int count (by omega)
    have hvalue := normalize_has_value .positive hheld
    rw [zpow_zero, mul_one, Int.cast_natCast] at hvalue
    show HasValue _ (unpack .binary32 (pack .binary32
      (UnpackedFloat.normalize .binary32 count.toUInt64.toNat 0 .positive))) _
    rw [hword]
    exact hvalue.packed
  have hone : Equals (.ofBits 0x3F800000) 1 :=
    equals_positive (2 ^ 23) (-23) (by decide) rfl (by norm_num)
  have hproduct := hsingle.mul hone (mul_one _) hsingle.held
  show Equals (.ofScientific count false 0) count
  unfold Float32.ofScientific
  rw [dif_pos ⟨h, by omega⟩]
  exact hproduct

/-- So is that of an integer with a sign. -/
theorem equals_int (count : Int) (h : count.natAbs < 2 ^ 23) : Equals (.ofInt count) count := by
  cases count with
  | ofNat count => exact equals_nat count h
  | negSucc count =>
      have hopposite := (equals_nat (count + 1) h).neg
      rwa [← Int.cast_natCast, ← Int.cast_neg] at hopposite

/-- Zero. -/
theorem equals_zero : Equals Arithmetic.zero 0 := equals_int 0 (by decide)

/-- One. -/
theorem equals_one : Equals Arithmetic.one 1 := by
  have hone := equals_int 1 (by decide)
  rwa [Int.cast_one] at hone

/-- A half. -/
theorem equals_half : Equals 0.5 (1 / 2) :=
  equals_positive (2 ^ 23) (-24) (by decide) rfl (by norm_num)

/-- The largest byte. -/
theorem equals_largest : Equals 255 255 := equals_nat 255 (by decide)

/-- Half an even number is exact. -/
theorem Equals.halve {count : Nat} (h : Equals value (2 * count : Nat)) (hcount : count < 2 ^ 23) :
    Equals (value * 0.5) count :=
  h.mul equals_half (by push_cast; ring) (equals_nat count hcount).held

/-- A byte is exact. -/
theorem equals_byte (byte : UInt8) : Equals (Arithmetic.ofInt byte.toNat) byte.toNat :=
  equals_int byte.toNat (byte.toNat_lt.trans (by decide))

/-! ### Rounding to a byte -/

/-- A number strictly inside the range of a byte is rounded to what is below its sum with a half. -/
theorem round_to_byte_of_sum {sum : ℚ} (h : Equals value number) (hpositive : 0 < number)
    (hbelow : number < 255) (hsum : Equals (value + 0.5) sum) (hnonnegative : 0 ≤ sum)
    (hlimit : sum < 256) : ((roundToByte value).toNat : Int) = ⌊sum⌋ := by
  have hzero : Equals 0 0 := equals_zero
  have hfloor := Int.floor_nonneg.mpr hnonnegative
  have hceiling : ⌊sum⌋ < 256 := Int.floor_lt.mpr (by exact_mod_cast hlimit)
  have hword : (value + 0.5).toUInt8 = .ofNatClamp ⌊sum⌋.toNat :=
    congrArg (fun whole : Int ↦ UInt8.ofNatClamp whole.toNat) (hsum.to_int_eq hnonnegative _ _)
  unfold roundToByte
  rw [h.not_nan, Bool.false_or, if_neg (by simpa [h.le_iff hzero] using hpositive),
    if_neg (by simpa [equals_largest.le_iff h] using hbelow), hword, UInt8.ofNatClamp,
    dif_pos (show ⌊sum⌋.toNat < 256 by omega)]
  exact Int.toNat_of_nonneg hfloor

/-- If this sum is held, the number is rounded to the nearest byte, a half upwards. -/
theorem round_to_byte_inside (h : Equals value number) (hpositive : 0 < number)
    (hbelow : number < 255) (hheld : Holds .binary32 (number + 1 / 2)) :
    ((roundToByte value).toNat : Int) = ⌊number + 1 / 2⌋ :=
  round_to_byte_of_sum h hpositive hbelow (h.add equals_half rfl hheld) (by linarith) (by linarith)

/-- The number of a byte is rounded to the byte. -/
theorem round_to_byte_eq {byte : UInt8} (h : Equals value byte.toNat) :
    roundToByte value = byte := by
  have hzero : Equals 0 0 := equals_zero
  have hbyte := byte.toNat_lt
  rcases Nat.eq_zero_or_pos byte.toNat with hnone | hpositive
  · unfold roundToByte
    rw [if_pos (by simp [h.le_iff hzero, hnone])]
    exact (UInt8.toNat_inj.mp hnone).symm
  · by_cases hfull : byte.toNat = 255
    · unfold roundToByte
      rw [h.not_nan, Bool.false_or, if_neg (by simp [h.le_iff hzero, hfull]),
        if_pos (by simp [equals_largest.le_iff h, hfull])]
      exact (UInt8.toNat_inj.mp hfull).symm
    · have hwhole := round_to_byte_inside h (by exact_mod_cast hpositive)
        (by exact_mod_cast (show byte.toNat < 255 by omega)) (holds_half_above _ (by omega))
      rw [floor_half_above] at hwhole
      exact UInt8.toNat_inj.mp (by exact_mod_cast hwhole)

end Panorama.Number
