import Panorama.Proofs.Number.Rounding
import Panorama.Proofs.Number.Single

/-!
# Rounding to the nearest byte

A sample is rounded to the byte that is nearest to it, although the half that is added to it on the
way is not always added exactly: a sum that crosses a power of two loses its last bit, but it has
passed the whole number by then. Only the single just below a half is carried over it, to one. Read
`rounds_to_nearest` first.
-/

namespace Panorama.Number

open Float.Model (UnpackedFloat Format)
open Float.Model.UnpackedFloat

variable {value other : Float32} {number : ℚ} {byte : UInt8}

/-! ### The nearest byte -/

/-- No byte is nearer to a number than this one, and no larger byte is as near. -/
structure IsNearest (byte : UInt8) (number : ℚ) : Prop where
  nearest : ∀ other : UInt8, |(byte.toNat : ℚ) - number| ≤ |(other.toNat : ℚ) - number|
  upward : ∀ other : UInt8, |(other.toNat : ℚ) - number| = |(byte.toNat : ℚ) - number| →
    other ≤ byte

/-- A byte is the nearest one to the numbers from half a unit below it to half a unit above it. The
first byte is also the nearest one to all numbers below, and the last one to all above. -/
theorem nearest_of_bounds (hlow : byte = 0 ∨ (byte.toNat : ℚ) - 1 / 2 ≤ number)
    (hhigh : byte = 255 ∨ number < byte.toNat + 1 / 2) : IsNearest byte number := by
  have hless {other : UInt8} (h : byte.toNat < other.toNat) :
      |(byte.toNat : ℚ) - number| < |(other.toNat : ℚ) - number| := by
    have hstep : (byte.toNat : ℚ) + 1 ≤ other.toNat := by exact_mod_cast h
    have hbelow : number < byte.toNat + 1 / 2 := by
      refine hhigh.resolve_left fun hlast ↦ ?_
      rw [hlast] at h
      exact absurd other.toNat_lt (not_lt.mpr h)
    rw [abs_of_nonneg (show 0 ≤ (other.toNat : ℚ) - number by linarith), abs_lt]
    constructor <;> linarith
  have hgreater {other : UInt8} (h : other.toNat < byte.toNat) :
      |(byte.toNat : ℚ) - number| ≤ |(other.toNat : ℚ) - number| := by
    have hstep : (other.toNat : ℚ) + 1 ≤ byte.toNat := by exact_mod_cast h
    have habove : (byte.toNat : ℚ) - 1 / 2 ≤ number := by
      refine hlow.resolve_left fun hfirst ↦ ?_
      rw [hfirst] at h
      exact absurd h (Nat.not_lt_zero _)
    rw [abs_of_nonpos (show (other.toNat : ℚ) - number ≤ 0 by linarith), abs_le]
    constructor <;> linarith
  constructor
  · intro other
    rcases lt_trichotomy byte.toNat other.toNat with h | h | h
    · exact (hless h).le
    · rw [h]
    · exact hgreater h
  · intro other hsame
    rw [UInt8.le_iff_toNat_le]
    by_contra h
    exact absurd hsame (hless (not_le.mp h)).ne'

/-! ### The exception -/

/-- The largest single below a half. -/
def belowHalf : Float32 := .ofBits 0x3EFFFFFF

/-- It is less than a half by one unit in the last place. -/
theorem equals_below_half : Equals belowHalf (1 / 2 - 1 / 2 ^ 25) :=
  equals_positive (2 ^ 24 - 1) (-25) (by decide) rfl (by norm_num)

/-- Any other single below a half is less by at least two. -/
theorem Equals.le_of_lt_half (h : Equals value number) (hvalue : value ≠ belowHalf)
    (hless : number < 1 / 2) : number ≤ 1 / 2 - 1 / 2 ^ 24 := by
  unfold Equals at h
  generalize hunpacked : value.toModel.unpack = unpacked at h
  cases h with
  | zero sign => norm_num
  | @finite sign mantissa exponent form =>
      cases sign with
      | negative =>
          have hnumber := value_pos form.positive exponent
          simp only [Sign.apply, Int.cast_neg, Int.cast_natCast]
          linarith
      | positive =>
          have hhalf : IsCanonical .binary32 (2 ^ 23) (-24) := by
            decide
          have hsecond : IsCanonical .binary32 (2 ^ 24 - 2) (-25) := by
            decide
          have hbits : mantissa < 2 ^ 24 := form.bits
          have hfull : 2 ^ 23 ≤ mantissa ∨ exponent = -149 := form.full
          rw [show (Sign.positive.apply mantissa : Int) = mantissa from rfl, Int.cast_natCast]
            at hless ⊢
          have hbelow := (form.lt_iff hhalf).mp (by norm_num; linarith)
          by_contra hgreater
          have habove := (hsecond.lt_iff form).mp (by norm_num; linarith)
          -- Between the second largest single and a half there is the largest one only.
          obtain ⟨rfl, rfl⟩ : exponent = -25 ∧ mantissa = 2 ^ 24 - 1 := by omega
          exact hvalue (single_ext_unpacked hunpacked)

/-- With a half added it makes one. -/
theorem round_to_byte_below_half : roundToByte belowHalf = 1 := by
  decide

/-! ### Adding a half -/

/-- A positive sum between two numbers that are held is rounded to a number between them. -/
theorem Equals.add_between {left right : Float32} {first second low high : ℚ}
    (hleft : Equals left first) (hright : Equals right second) (hpositive : 0 < first + second)
    (hlow : Holds .binary32 low) (hhigh : Holds .binary32 high) (hbelow : low ≤ first + second)
    (habove : first + second ≤ high) :
    ∃ sum, Equals (left + right) sum ∧ low ≤ sum ∧ sum ≤ high := by
  obtain ⟨sum, hsum, hbounds⟩ :=
    HasValue.add_between hlow hhigh hleft hright hpositive hbelow habove
  exact ⟨sum, hsum.packed, hbounds⟩

/-- A number between one and the point where only integers are held counts units of some binary
place behind the point. -/
theorem Equals.exists_units (h : Equals value number) (hlow : 1 ≤ number)
    (hlimit : number < 2 ^ 23) : ∃ count places : Nat,
      count < 2 ^ 24 ∧ places ≤ 22 ∧ number = count / 2 ^ (places + 1) := by
  have hpositive : 0 < number := zero_lt_one.trans_le hlow
  obtain ⟨mantissa, exponent, form, hform⟩ := h.held.exists_form hpositive.ne'
  rw [abs_of_pos hpositive] at hform
  have hone : IsCanonical .binary32 (2 ^ 23) (-23) := by
    decide
  have hmost : IsCanonical .binary32 (2 ^ 23) 0 := by
    decide
  have hfull : 2 ^ 23 ≤ mantissa ∨ exponent = -149 := form.full
  have hbits : mantissa < 2 ^ 24 := form.bits
  have hlowest := mt (form.lt_iff hone).mpr (by rw [← hform]; norm_num; linarith)
  have hhighest := (form.lt_iff hmost).mp (by rw [← hform]; norm_num; linarith)
  refine ⟨mantissa, (-exponent - 1).toNat, hbits, by omega, ?_⟩
  rw [hform, div_eq_mul_inv, ← zpow_natCast, ← zpow_neg]
  congr 2
  omega

/-- Such numbers are held, behind the point down to the last place. -/
theorem holds_units {count places : Nat} (hcount : count < 2 ^ 24) (hplaces : places < 149) :
    Holds .binary32 ((count : ℚ) / 2 ^ (places + 1)) := by
  have hlowest : (-149 : Int) ≤ -(places + 1 : Nat) := by
    omega
  have hhighest : -((places + 1 : Nat) : Int) + (23 : Nat) ≤ (127 : Nat) := by
    omega
  have hheld : Holds .binary32 ((count : Int) * 2 ^ (-(places + 1 : Nat) : Int)) :=
    holds_dyadic hcount hlowest hhighest
  rwa [Int.cast_natCast, zpow_neg, zpow_natCast, ← div_eq_mul_inv] at hheld

/-- Half a unit more does not take another bit below the next whole number. -/
theorem add_half_lt {count places whole : Nat} (hcount : count < 2 ^ 24) (hplaces : places ≤ 22)
    (hlow : whole * 2 ^ (places + 1) ≤ count)
    (hhigh : count < whole * 2 ^ (places + 1) + 2 ^ places) : count + 2 ^ places < 2 ^ 24 := by
  have hpower : 2 ^ 24 = 2 ^ (23 - places) * 2 ^ (places + 1) := by
    rw [← pow_add]
    congr 1
    omega
  have hnext : whole + 1 ≤ 2 ^ (23 - places) :=
    Nat.lt_of_mul_lt_mul_right (hpower ▸ hlow.trans_lt hcount)
  have hroom := Nat.mul_le_mul_right (2 ^ (places + 1)) hnext
  rw [← hpower, Nat.succ_mul, pow_succ] at hroom
  rw [pow_succ] at hhigh
  omega

/-- A sum with a half is held if it does not reach the next whole number. -/
theorem Equals.holds_add_half {whole : Nat} (h : Equals value number) (hwhole : 0 < whole)
    (hlow : whole ≤ number) (hhigh : number < whole + 1 / 2) (hlimit : number < 2 ^ 23) :
    Holds .binary32 (number + 1 / 2) := by
  have hone : (1 : ℚ) ≤ whole := by exact_mod_cast hwhole
  obtain ⟨count, places, hcount, hplaces, rfl⟩ := h.exists_units (hone.trans hlow) hlimit
  have hunit : (0 : ℚ) < 2 ^ (places + 1) := by positivity
  have hhalf : (2 : ℚ) ^ (places + 1) / 2 = 2 ^ places := by
    rw [pow_succ, mul_div_cancel_right₀ _ two_ne_zero]
  rw [le_div_iff₀ hunit] at hlow
  rw [div_lt_iff₀ hunit, add_mul, one_div_mul_eq_div, hhalf] at hhigh
  have hsum : (count : ℚ) / 2 ^ (places + 1) + 1 / 2
      = (count + 2 ^ places : Nat) / 2 ^ (places + 1) := by
    rw [Nat.cast_add, Nat.cast_pow, Nat.cast_ofNat, ← hhalf, add_div, div_right_comm,
      div_self hunit.ne']
  rw [hsum]
  exact holds_units (add_half_lt hcount hplaces (by exact_mod_cast hlow) (by exact_mod_cast hhigh))
    (by omega)

/-- Adding a half to a number in the range of a byte leads past no whole number that the exact sum
does not reach. -/
theorem Equals.add_half {whole : Nat} (h : Equals value number) (hvalue : value ≠ belowHalf)
    (hpositive : 0 < number) (hlimit : number < 255) (hlow : whole ≤ number + 1 / 2)
    (hhigh : number + 1 / 2 < whole + 1) :
    ∃ sum, Equals (value + 0.5) sum ∧ whole ≤ sum ∧ sum < whole + 1 := by
  have hsmall : whole < 2 ^ 23 := by
    exact_mod_cast (show (whole : ℚ) < 2 ^ 23 by linarith)
  rcases Nat.eq_zero_or_pos whole with rfl | hwhole
  · have hheld : Holds .binary32 ((2 ^ 24 - 1 : Nat) / 2 ^ (23 + 1)) :=
      holds_units (by decide) (by decide)
    rw [show ((2 ^ 24 - 1 : Nat) : ℚ) / 2 ^ (23 + 1) = 1 - 1 / 2 ^ 24 by norm_num] at hheld
    have hgap := h.le_of_lt_half hvalue (by push_cast at hhigh; linarith)
    obtain ⟨sum, hsum, hnonnegative, hless⟩ := h.add_between equals_half (by linarith)
      equals_zero.held hheld (by linarith) (by linarith)
    exact ⟨sum, hsum, by exact_mod_cast hnonnegative, by norm_num at hless ⊢; linarith⟩
  · by_cases hreached : whole ≤ number
    · exact ⟨_, h.add equals_half rfl
        (h.holds_add_half hwhole hreached (by linarith) (by linarith)), hlow, hhigh⟩
    · have hheld : Holds .binary32 (whole : ℚ) := by
        exact_mod_cast holds_int whole (by omega)
      obtain ⟨sum, hsum, hatLeast, hatMost⟩ := h.add_between equals_half (by linarith)
        hheld (holds_half_above whole hsmall) hlow (by linarith)
      exact ⟨sum, hsum, hatLeast, by linarith⟩

/-! ### Rounding -/

/-- A number strictly inside the range of a byte is rounded to what is below its exact sum with a
half. -/
theorem round_to_byte_floor (h : Equals value number) (hvalue : value ≠ belowHalf)
    (hpositive : 0 < number) (hlimit : number < 255) :
    ((roundToByte value).toNat : Int) = ⌊number + 1 / 2⌋ := by
  obtain ⟨whole, hwhole⟩ := Int.eq_ofNat_of_zero_le
    (Int.floor_nonneg.mpr (show 0 ≤ number + 1 / 2 by linarith))
  obtain ⟨hlow, hhigh⟩ := Int.floor_eq_iff.mp hwhole
  rw [Int.cast_natCast] at hlow hhigh
  obtain ⟨sum, hsum, hatLeast, hless⟩ := h.add_half hvalue hpositive hlimit hlow hhigh
  have hnonnegative := (Nat.cast_nonneg whole).trans hatLeast
  have hfew : whole < 256 := by
    exact_mod_cast (show (whole : ℚ) < 256 by linarith)
  have hbytes : (whole : ℚ) ≤ 255 := by
    exact_mod_cast Nat.le_of_lt_succ hfew
  rw [round_to_byte_of_sum h hpositive hlimit hsum hnonnegative (by linarith), hwhole,
    Int.floor_eq_iff, Int.cast_natCast]
  exact ⟨hatLeast, hless⟩

/-- What is not above zero is rounded to zero. -/
theorem round_to_byte_low (h : value ≤ 0) : roundToByte value = 0 := by
  unfold roundToByte
  rw [if_pos (by simp [h])]

/-- A single that is at least the largest byte is a number or the positive infinity. -/
theorem number_of_high (h : 255 ≤ value) :
    (∃ number, Equals value number) ∨ value.toModel.unpack = .infinity .positive := by
  have hmost : UnpackedFloat.le (255 : Float32).toModel.unpack value.toModel.unpack :=
    of_decide_eq_true h
  by_cases hfinite : value.isFinite
  · exact .inl (Equals.of_finite hfinite)
  · have hinfinite : ¬value.toModel.unpack.isFinite := hfinite
    refine .inr ?_
    generalize value.toModel.unpack = unpacked at hmost hinfinite ⊢
    cases unpacked with
    | notANumber => cases hmost
    | zero sign => exact absurd rfl hinfinite
    | finite _ _ _ _ => exact absurd rfl hinfinite
    | infinity sign =>
        cases sign with
        | negative => cases hmost
        | positive => rfl

/-- What is not below the largest byte is rounded to it. -/
theorem round_to_byte_high (h : 255 ≤ value) : roundToByte value = 255 := by
  have hnumber : value.isNaN = false ∧ ¬value ≤ 0 := by
    rcases number_of_high h with ⟨number, hnumber⟩ | hinfinite
    · have hzero : Equals 0 0 := equals_zero
      have hlarge := (equals_largest.le_iff hnumber).mp h
      refine ⟨hnumber.not_nan, ?_⟩
      rw [hnumber.le_iff hzero]
      linarith
    · show value.toModel.unpack.isNaN = false ∧
        ¬decide (UnpackedFloat.le value.toModel.unpack (0 : Float32).toModel.unpack) = true
      rw [hinfinite]
      decide
  unfold roundToByte
  rw [hnumber.1, Bool.false_or, if_neg (by simp [hnumber.2]), if_pos h]

/-- Of two singles in order, the lower one above zero and the upper one below the largest byte, both
are finite. -/
theorem finite_of_inside (h : value ≤ other) (hlow : ¬value ≤ 0) (hhigh : ¬255 ≤ other) :
    value.isFinite ∧ other.isFinite := by
  have horder : UnpackedFloat.le value.toModel.unpack other.toModel.unpack := of_decide_eq_true h
  have habove : ¬UnpackedFloat.le value.toModel.unpack (0 : Float32).toModel.unpack :=
    fun hle ↦ hlow (decide_eq_true hle)
  have hbelow : ¬UnpackedFloat.le (255 : Float32).toModel.unpack other.toModel.unpack :=
    fun hle ↦ hhigh (decide_eq_true hle)
  show value.toModel.unpack.isFinite ∧ other.toModel.unpack.isFinite
  generalize value.toModel.unpack = lower at horder habove ⊢
  generalize other.toModel.unpack = upper at horder hbelow ⊢
  cases lower with
  | notANumber => cases horder
  | infinity sign =>
      cases sign with
      | negative => exact absurd rfl habove
      | positive =>
          cases upper with
          | infinity sign =>
              cases sign with
              | negative => cases horder
              | positive => exact absurd rfl hbelow
          | _ => cases horder
  | _ =>
      refine ⟨rfl, ?_⟩
      cases upper with
      | notANumber => cases horder
      | infinity sign =>
          cases sign with
          | negative => cases horder
          | positive => exact absurd rfl hbelow
      | _ => rfl

/-- Rounding keeps the order. -/
theorem round_to_byte_mono (h : value ≤ other) : roundToByte value ≤ roundToByte other := by
  by_cases hlow : value ≤ 0
  · rw [round_to_byte_low hlow]
    exact UInt8.zero_le
  by_cases hhigh : 255 ≤ other
  · rw [round_to_byte_high hhigh, UInt8.le_iff_toNat_le]
    exact Nat.le_of_lt_succ (UInt8.toNat_lt _)
  obtain ⟨hvalue, hother⟩ := finite_of_inside h hlow hhigh
  obtain ⟨number, hnumber⟩ := Equals.of_finite hvalue
  obtain ⟨bound, hbound⟩ := Equals.of_finite hother
  have horder := (hnumber.le_iff hbound).mp h
  have hpositive : 0 < number := not_le.mp (mt (hnumber.le_iff equals_zero).mpr hlow)
  have hlimit : bound < 255 := not_le.mp (mt (equals_largest.le_iff hbound).mpr hhigh)
  rw [UInt8.le_iff_toNat_le, ← Int.ofNat_le]
  -- The exception is rounded to one, which is what is above it reaches, and what is below does not.
  rcases eq_or_ne value belowHalf with rfl | hvalue
  · rcases eq_or_ne other belowHalf with rfl | hother
    · exact le_rfl
    · have hleast := (equals_below_half.le_iff hbound).mp h
      have hhalf := mt (hbound.le_of_lt_half hother) (by linarith)
      rw [round_to_byte_below_half, round_to_byte_floor hbound hother (by linarith) hlimit]
      exact Int.le_floor.mpr (show ((1 : Int) : ℚ) ≤ bound + 1 / 2 by push_cast; linarith)
  · rw [round_to_byte_floor hnumber hvalue hpositive (by linarith)]
    rcases eq_or_ne other belowHalf with rfl | hother
    · have hmost := (hnumber.le_iff equals_below_half).mp h
      rw [round_to_byte_below_half]
      exact Int.le_of_lt_add_one
        (Int.floor_lt.mpr (show number + 1 / 2 < ((2 : Int) : ℚ) by push_cast; linarith))
    · rw [round_to_byte_floor hbound hother (by linarith) hlimit]
      exact Int.floor_le_floor (by linarith)

/-- Every number but the one just below a half is rounded to the nearest byte. -/
theorem round_to_byte_nearest (h : Equals value number) (hvalue : value ≠ belowHalf) :
    IsNearest (roundToByte value) number := by
  by_cases hpositive : 0 < number
  · by_cases hlimit : number < 255
    · obtain ⟨hlow, hhigh⟩ :=
        Int.floor_eq_iff.mp (round_to_byte_floor h hvalue hpositive hlimit).symm
      rw [Int.cast_natCast] at hlow hhigh
      exact nearest_of_bounds (.inr (by linarith)) (.inr (by linarith))
    · rw [round_to_byte_high ((equals_largest.le_iff h).mpr (not_lt.mp hlimit))]
      refine nearest_of_bounds (.inr ?_) (.inl rfl)
      rw [show ((255 : UInt8).toNat : ℚ) = (255 : Nat) from rfl]
      push_cast
      linarith
  · rw [round_to_byte_low ((h.le_iff equals_zero).mpr (by linarith))]
    exact nearest_of_bounds (.inl rfl) (.inr (by norm_num; linarith))

/-- The nearest byte to a number in the range of a byte is at most half a unit away. -/
theorem IsNearest.near (h : IsNearest byte number) (hlow : 0 ≤ number) (hhigh : number ≤ 255) :
    |(byte.toNat : ℚ) - number| ≤ 1 / 2 := by
  obtain ⟨whole, hwhole⟩ := Int.eq_ofNat_of_zero_le
    (Int.floor_nonneg.mpr (show 0 ≤ number + 1 / 2 by linarith))
  obtain ⟨hleast, hless⟩ := Int.floor_eq_iff.mp hwhole
  rw [Int.cast_natCast] at hleast hless
  have hfew : whole < 256 := by
    exact_mod_cast (show (whole : ℚ) < 256 by linarith)
  refine (h.nearest (.ofNat whole)).trans ?_
  rw [UInt8.toNat_ofNat_of_lt' hfew, abs_le]
  constructor <;> linarith

/-- A single that is not NaN is a number unless it is outside the range of a byte. -/
theorem number_or_outside (h : value.isNaN = false) :
    value ≤ 0 ∨ 255 ≤ value ∨ ∃ number, Equals value number := by
  by_cases hfinite : value.isFinite
  · exact .inr (.inr (Equals.of_finite hfinite))
  · have hnumber : value.toModel.unpack.isNaN = false := h
    have hinfinite : ¬value.toModel.unpack.isFinite := hfinite
    have hsides : value.toModel.unpack.le (0 : Float32).toModel.unpack ∨
        (255 : Float32).toModel.unpack.le value.toModel.unpack := by
      generalize value.toModel.unpack = unpacked at hnumber hinfinite ⊢
      cases unpacked with
      | notANumber => cases hnumber
      | zero _ => exact absurd rfl hinfinite
      | finite _ _ _ _ => exact absurd rfl hinfinite
      | infinity sign =>
          cases sign with
          | negative => exact .inl rfl
          | positive => exact .inr rfl
    exact hsides.imp decide_eq_true fun hhigh ↦ .inl (decide_eq_true hhigh)

/-- What a single that is not NaN is rounded to: zero or the largest byte outside the range of a
byte, and otherwise the nearest byte, except just below a half. A larger single is never rounded to
a smaller byte. -/
theorem rounds_to_nearest (hvalue : value.isNaN = false) :
    (value ≤ 0 → roundToByte value = 0) ∧ (255 ≤ value → roundToByte value = 255) ∧
      (value ≤ 0 ∨ 255 ≤ value ∨ ∃ number, Equals value number) ∧
      (∀ number, Equals value number → value ≠ belowHalf →
        IsNearest (roundToByte value) number ∧
          (0 ≤ number → number ≤ 255 → |((roundToByte value).toNat : ℚ) - number| ≤ 1 / 2)) ∧
      (value = belowHalf → Equals value (1 / 2 - 1 / 2 ^ 25) ∧ roundToByte value = 1) ∧
      ∀ other, value ≤ other → roundToByte value ≤ roundToByte other := by
  refine ⟨round_to_byte_low, round_to_byte_high, number_or_outside hvalue,
    fun number hnumber hexcepted ↦ ?_, fun hexcepted ↦ ?_, fun other ↦ round_to_byte_mono⟩
  · have hnearest := round_to_byte_nearest hnumber hexcepted
    exact ⟨hnearest, hnearest.near⟩
  · rw [hexcepted]
    exact ⟨equals_below_half, round_to_byte_below_half⟩

/-- Two and a half is as near to two as to three, and becomes three. -/
theorem two_and_half_rounded :
    (Float32.ofBits 0x40200000).isNaN = false ∧
      IsNearest (roundToByte (.ofBits 0x40200000)) (5 / 2) ∧
      |((roundToByte (.ofBits 0x40200000)).toNat : ℚ) - 5 / 2| ≤ 1 / 2 ∧
      roundToByte (.ofBits 0x40200000) = 3 := by
  have hequals : Equals (.ofBits 0x40200000) (5 / 2) :=
    equals_positive (5 * 2 ^ 21) (-22) (by decide) rfl (by norm_num)
  obtain ⟨hnearest, hnear⟩ :=
    (rounds_to_nearest hequals.not_nan).2.2.2.1 (5 / 2) hequals (by decide)
  exact ⟨hequals.not_nan, hnearest, hnear (by norm_num) (by norm_num), by decide⟩

/-- Just below a half zero is nearer than one, and one is more than a half away. -/
theorem below_half_misrounded :
    belowHalf.isNaN = false ∧ Equals belowHalf (1 / 2 - 1 / 2 ^ 25) ∧
      ¬IsNearest (roundToByte belowHalf) (1 / 2 - 1 / 2 ^ 25) ∧
      1 / 2 < |((roundToByte belowHalf).toNat : ℚ) - (1 / 2 - 1 / 2 ^ 25)| := by
  have hfar : 1 / 2 < |((roundToByte belowHalf).toNat : ℚ) - (1 / 2 - 1 / 2 ^ 25)| := by
    rw [round_to_byte_below_half, show ((1 : UInt8).toNat : ℚ) = (1 : Nat) from rfl, lt_abs]
    norm_num
  refine ⟨equals_below_half.not_nan, equals_below_half, fun hnearest ↦ ?_, hfar⟩
  exact absurd (hnearest.near (by norm_num) (by norm_num)) (not_le.mpr hfar)

end Panorama.Number
