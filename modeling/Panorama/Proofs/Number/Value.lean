import Panorama.Proofs.Number.Canonical
import Panorama.Proofs.Number.Order

/-!
# Exact operations

`HasValue` says which rational number an unpacked float is. An operation whose exact result is held
by the format gives this result, floats are compared like the numbers that they are, and the largest
integer below a float is that below the number.
-/

namespace Panorama.Number

open Float.Model (UnpackedFloat Format totalExponent)
open Float.Model.UnpackedFloat

variable {spec : Format} {value left right : UnpackedFloat} {number first second : ℚ}

/-- An unpacked float is a rational number, in the form of a format. -/
inductive HasValue (spec : Format) : UnpackedFloat → ℚ → Prop where
  /-- Both zeros are zero. -/
  | zero (sign : Sign) : HasValue spec (.zero sign) 0
  /-- A finite float is its signed mantissa times a power of two. -/
  | finite (sign : Sign) {mantissa : Nat} {exponent : Int}
    (form : IsCanonical spec mantissa exponent) :
    HasValue spec (.finite sign mantissa exponent form.positive)
      (sign.apply mantissa * 2 ^ exponent)

/-- A format holds a number. -/
def Holds (spec : Format) (number : ℚ) : Prop := ∃ value, HasValue spec value number

/-! ### Signs -/

/-- The sign of an integer. -/
def signOf (count : Int) : Sign := if count < 0 then .negative else .positive

/-- An integer is its sign and its distance from zero. -/
theorem sign_of_apply (count : Int) : (signOf count).apply count.natAbs = count := by
  unfold signOf
  split
  · show -(count.natAbs : Int) = count
    omega
  · show (count.natAbs : Int) = count
    omega

/-- The opposite sign gives the opposite number. -/
theorem opposite_apply (sign : Sign) (count : Int) : (-sign).apply count = -sign.apply count := by
  cases sign with
  | negative => exact (neg_neg count).symm
  | positive => rfl

/-- The sign of a product is the product of the signs. -/
theorem mul_apply (sign other : Sign) (left right : Int) :
    (sign * other).apply (left * right) = sign.apply left * other.apply right := by
  cases sign <;> cases other
  · exact (neg_mul_neg left right).symm
  · exact (neg_mul left right).symm
  · exact (mul_neg left right).symm
  · rfl

/-- Numbers that are written in two ways are so with every sign. -/
theorem apply_eq_of_value (sign : Sign) {left right : Nat} {low high : Int}
    (hvalue : (left : ℚ) * 2 ^ low = right * 2 ^ high) :
    ((sign.apply left : Int) : ℚ) * 2 ^ low = (sign.apply right : Int) * 2 ^ high := by
  cases sign with
  | negative => simpa [Sign.apply] using hvalue
  | positive => exact hvalue

/-- The distance of a signed number from zero. -/
theorem abs_apply (sign : Sign) (mantissa : Nat) (exponent : Int) :
    |((sign.apply mantissa : Int) : ℚ) * 2 ^ exponent| = mantissa * 2 ^ exponent := by
  have hpower : (0 : ℚ) < 2 ^ exponent := zpow_pos two_pos exponent
  rw [abs_mul, abs_of_pos hpower]
  cases sign <;> simp [Sign.apply]

/-- With a sign it does not make zero. -/
theorem signed_ne_zero (sign : Sign) {mantissa : Nat} (h : 0 < mantissa) (exponent : Int) :
    ((sign.apply mantissa : Int) : ℚ) * 2 ^ exponent ≠ 0 := by
  rw [← abs_ne_zero, abs_apply]
  exact (value_pos h exponent).ne'

/-- The opposite of a float is the opposite number. -/
theorem HasValue.neg (h : HasValue spec value number) : HasValue spec value.neg (-number) := by
  cases h with
  | zero sign =>
      rw [neg_zero]
      exact .zero _
  | @finite sign mantissa exponent form =>
      have hopposite := HasValue.finite (-sign) form
      rwa [opposite_apply, Int.cast_neg, neg_mul] at hopposite

/-! ### Numbers that are held -/

/-- A number that is not zero has a form. -/
theorem Holds.exists_form (h : Holds spec number) (hnonzero : number ≠ 0) :
    ∃ mantissa exponent, IsCanonical spec mantissa exponent ∧
      |number| = mantissa * 2 ^ exponent := by
  obtain ⟨_, hvalue⟩ := h
  cases hvalue with
  | zero sign => exact absurd rfl hnonzero
  | @finite sign mantissa exponent form => exact ⟨mantissa, exponent, form, abs_apply ..⟩

/-- A format holds every number with few bits at an exponent that it has. -/
theorem holds_dyadic {count exponent : Int} (hbits : count.natAbs < 2 ^ spec.mantissaBits)
    (hlowest : spec.minExponent ≤ exponent)
    (hhighest : exponent + spec.mantissaBitsWithoutImplicit ≤ spec.exponentBias) :
    Holds spec (count * 2 ^ exponent) := by
  rcases Nat.eq_zero_or_pos count.natAbs with hzero | hpositive
  · rw [Int.natAbs_eq_zero.mp hzero, Int.cast_zero, zero_mul]
    exact ⟨_, .zero .positive⟩
  · obtain ⟨mantissa, place, form, hform⟩ := exists_canonical hpositive hbits hlowest hhighest
    have hvalue := HasValue.finite (signOf count) form
    rw [apply_eq_of_value _ hform, sign_of_apply] at hvalue
    exact ⟨_, hvalue⟩

/-! ### Operations -/

/-- Rounding gives a number that the format holds. -/
theorem round_has_value {written : Nat} {place : Int} (hpositive : 0 < written) (sign : Sign)
    (h : Holds spec ((sign.apply written : Int) * 2 ^ place)) :
    HasValue spec (UnpackedFloat.round spec sign written place)
      ((sign.apply written : Int) * 2 ^ place) := by
  obtain ⟨mantissa, exponent, form, hform⟩ := h.exists_form (signed_ne_zero sign hpositive place)
  rw [abs_apply] at hform
  rw [round_eq form sign hform, apply_eq_of_value sign hform]
  exact .finite sign form

/-- So does bringing a signed mantissa into form. -/
theorem normalize_has_value {count place : Int} (zeroSign : Sign)
    (h : Holds spec (count * 2 ^ place)) :
    HasValue spec (UnpackedFloat.normalize spec count place zeroSign) (count * 2 ^ place) := by
  unfold UnpackedFloat.normalize
  have hround (hnonzero : count ≠ 0) :
      HasValue spec (UnpackedFloat.round spec (signOf count) count.natAbs place)
        (count * 2 ^ place) := by
    have hsigned := sign_of_apply count
    rw [← hsigned] at h
    have hvalue := round_has_value (by omega) (signOf count) h
    rwa [hsigned] at hvalue
  rcases lt_trichotomy count 0 with hnegative | rfl | hpositive
  · have hsign : signOf count = .negative := if_pos hnegative
    have habs : count.natAbs = (-count).toNat := by omega
    rw [Int.compare_eq_lt.mpr hnegative]
    have hvalue := hround hnegative.ne
    rwa [hsign, habs] at hvalue
  · rw [Int.cast_zero, zero_mul]
    exact .zero zeroSign
  · have hsign : signOf count = .positive := if_neg hpositive.le.not_gt
    have habs : count.natAbs = count.toNat := by omega
    rw [Int.compare_eq_gt.mpr hpositive]
    have hvalue := hround hpositive.ne'
    rwa [hsign, habs] at hvalue

/-- A mantissa is shifted to a lower exponent without a change of the value. -/
theorem decrease_exponent_value (sign : Sign) (mantissa : Nat) {low high : Int} (hle : low ≤ high) :
    ((sign.apply (decreaseExponent mantissa high low).1 : Int) : ℚ) * 2 ^ low
      = (sign.apply mantissa : Int) * 2 ^ high := by
  obtain ⟨shift, rfl⟩ := Int.le.dest hle
  refine apply_eq_of_value sign ?_
  rw [decreaseExponent, Nat.shiftLeft_eq, add_sub_cancel_left, Int.toNat_natCast, value_shifted]

/-- A sum that the format holds is exact. -/
theorem HasValue.add (hleft : HasValue spec left first) (hright : HasValue spec right second)
    (h : Holds spec (first + second)) : HasValue spec (left.add spec right) (first + second) := by
  cases hleft with
  | zero sign =>
      rw [zero_add]
      cases hright with
      | zero other => cases sign <;> cases other <;> exact .zero _
      | finite other shape => exact .finite other shape
  | @finite sign mantissa exponent form =>
      cases hright with
      | zero other =>
          rw [add_zero]
          exact .finite sign form
      | @finite other count place shape =>
          rw [← decrease_exponent_value sign mantissa (min_le_left exponent place),
            ← decrease_exponent_value other count (min_le_right exponent place), ← add_mul,
            ← Int.cast_add] at h ⊢
          exact normalize_has_value .positive h

/-- A difference is the sum with the opposite. -/
theorem sub_eq_add_opposite (left right : UnpackedFloat) :
    left.sub spec right = left.add spec right.neg := by
  cases left <;> cases right
  case finite.finite sign mantissa exponent _ other count place _ =>
    simp only [UnpackedFloat.sub, UnpackedFloat.add, UnpackedFloat.neg, opposite_apply,
      ← sub_eq_add_neg]
  all_goals rfl

/-- A difference that the format holds is exact. -/
theorem HasValue.sub (hleft : HasValue spec left first) (hright : HasValue spec right second)
    (h : Holds spec (first - second)) : HasValue spec (left.sub spec right) (first - second) := by
  rw [sub_eq_add_neg] at h
  rw [sub_eq_add_neg, sub_eq_add_opposite]
  exact hleft.add hright.neg h

/-- A product that the format holds has no smaller exponent than its factors together. -/
theorem IsCanonical.mul_exponent_le {mantissa count factor : Nat} {exponent place lower : Int}
    (form : IsCanonical spec mantissa exponent) (shape : IsCanonical spec count place)
    (h : IsCanonical spec factor lower)
    (hvalue : ((mantissa * count : Nat) : ℚ) * 2 ^ (exponent + place) = factor * 2 ^ lower) :
    exponent + place ≤ lower := by
  by_contra hgreater
  have hminimum := min_exponent_eq spec
  have hmantissaBits := spec.hm
  have hshifted := mantissa_eq_of_value (not_le.mp hgreater).le hvalue.symm
  -- A factor with all bits would leave more of them in the product than the format has.
  have hshift : 2 ≤ 2 ^ (exponent + place - lower).toNat :=
    Nat.le_self_pow (by omega) 2
  have hlarge (full : 2 ^ spec.mantissaBitsWithoutImplicit ≤ mantissa * count) : False := by
    have hbits := h.bits
    rw [hshifted, Format.mantissaBits, Nat.add_comm, pow_succ] at hbits
    exact absurd hbits (not_lt.mpr (Nat.mul_le_mul full hshift))
  rcases form.full with hfull | hsmallest
  · exact hlarge (hfull.trans (Nat.le_mul_of_pos_right _ shape.positive))
  · rcases shape.full with hfull | hother
    · exact hlarge (hfull.trans (Nat.le_mul_of_pos_left _ form.positive))
    · have hlowest := h.lowest
      omega

/-- A product that the format holds is exact. -/
theorem HasValue.mul (hleft : HasValue spec left first) (hright : HasValue spec right second)
    (h : Holds spec (first * second)) : HasValue spec (left.mul spec right) (first * second) := by
  cases hleft with
  | zero sign =>
      rw [zero_mul]
      cases hright with
      | zero other => exact .zero _
      | finite other shape => exact .zero _
  | @finite sign mantissa exponent form =>
      cases hright with
      | zero other =>
          rw [mul_zero]
          exact .zero _
      | @finite other count place shape =>
          have hproduct : (sign.apply mantissa : ℚ) * 2 ^ exponent * (other.apply count * 2 ^ place)
              = ((sign * other).apply (mantissa * count : Nat) : Int) * 2 ^ (exponent + place) := by
            rw [Nat.cast_mul, mul_apply, Int.cast_mul, zpow_add₀ two_ne_zero]
            ring
          have hpositive : 0 < mantissa * count := Nat.mul_pos form.positive shape.positive
          rw [hproduct] at h ⊢
          obtain ⟨factor, lower, hform, hvalue⟩ :=
            h.exists_form (signed_ne_zero (sign * other) hpositive _)
          rw [abs_apply] at hvalue
          have hle := form.mul_exponent_le shape hform hvalue
          have hshift : lower - (lower - (exponent + place)).toNat = exponent + place := by omega
          have hround := round_with_accuracy_eq hform (sign * other)
            (lower - (exponent + place)).toNat
          rw [← mantissa_eq_of_value hle hvalue, hshift] at hround
          have hresult : UnpackedFloat.mul spec (.finite sign mantissa exponent form.positive)
              (.finite other count place shape.positive)
                = .finite (sign * other) factor lower hform.positive := hround
          rw [hresult, apply_eq_of_value _ hvalue]
          exact .finite _ hform

/-- Two mantissas have at most one bit more together than their bits add up to. -/
theorem log2_mul_le {mantissa count : Nat} (hmantissa : 0 < mantissa) (hcount : 0 < count) :
    (mantissa * count).log2 ≤ mantissa.log2 + count.log2 + 1 := by
  have hproduct : mantissa * count < 2 ^ (mantissa.log2 + 1) * 2 ^ (count.log2 + 1) :=
    Nat.mul_lt_mul'' Nat.lt_log2_self Nat.lt_log2_self
  rw [← pow_add, ← Nat.log2_lt (Nat.mul_pos hmantissa hcount).ne'] at hproduct
  omega

/-- A quotient that the format holds comes out of the division without a rest. -/
theorem div_core_exact {mantissa count factor : Nat} {exponent place lower : Int}
    (hmantissa : 0 < mantissa) (hcount : 0 < count) (h : IsCanonical spec factor lower)
    (hvalue : (mantissa : ℚ) * 2 ^ exponent = (factor * count : Nat) * 2 ^ (lower + place)) :
    ∃ shift : Nat, divCore spec mantissa exponent count place
      = (factor * 2 ^ shift, lower - shift, .exact) := by
  have hproduct : 0 < factor * count := Nat.mul_pos h.positive hcount
  have hsame := total_exponent_eq hmantissa hproduct hvalue
  have hlog := log2_mul_le h.positive hcount
  have htarget := h.target_eq
  unfold Format.targetExponent totalExponent at htarget
  unfold totalExponent at hsame
  obtain ⟨start, hstart⟩ : ∃ start, start = min (exponent - place)
      (spec.targetExponent (totalExponent mantissa exponent - totalExponent count place)) :=
    ⟨_, rfl⟩
  have hle : start ≤ lower := by
    rw [hstart]
    unfold Format.targetExponent totalExponent
    omega
  have hshift : exponent = start + place + (exponent - place - start).toNat := by
    omega
  have hpower : (2 : ℚ) ^ exponent
      = 2 ^ (exponent - place - start).toNat * 2 ^ (start + place) := by
    conv_lhs => rw [hshift]
    rw [zpow_add₀ two_ne_zero, zpow_natCast, mul_comm]
  rw [hpower, ← mul_assoc, ← Nat.cast_ofNat, ← Nat.cast_pow, ← Nat.cast_mul] at hvalue
  have hwritten := mantissa_eq_of_value (by omega) hvalue
  have hplaces : lower + place - (start + place) = lower - start := by omega
  rw [hplaces] at hwritten
  refine ⟨(lower - start).toNat, ?_⟩
  have hquotient : factor * count * 2 ^ (lower - start).toNat
      = factor * 2 ^ (lower - start).toNat * count := by ring
  unfold divCore
  simp only [← hstart, Nat.shiftLeft_eq, hwritten, hquotient, Nat.mul_div_cancel _ hcount,
    Nat.mul_mod_left]
  congr 2
  omega

/-- A quotient that the format holds is exact. -/
theorem HasValue.div (hleft : HasValue spec left first) (hright : HasValue spec right second)
    (hnonzero : second ≠ 0) (h : Holds spec (first / second)) :
    HasValue spec (left.div spec right) (first / second) := by
  cases hright with
  | zero other => exact absurd rfl hnonzero
  | @finite other count place shape =>
      cases hleft with
      | zero sign =>
          rw [zero_div]
          exact .zero _
      | @finite sign mantissa exponent form =>
          have hwhole := signed_ne_zero sign form.positive exponent
          obtain ⟨factor, lower, hform, hvalue⟩ := h.exists_form (div_ne_zero hwhole hnonzero)
          rw [abs_div, abs_apply, abs_apply, div_eq_iff (value_pos shape.positive place).ne']
            at hvalue
          have hproduct : (mantissa : ℚ) * 2 ^ exponent
              = (factor * count : Nat) * 2 ^ (lower + place) := by
            rw [hvalue, zpow_add₀ two_ne_zero]
            push_cast
            ring
          obtain ⟨shift, hcore⟩ := div_core_exact form.positive shape.positive hform hproduct
          have hsign : sign / other = sign * other := by
            cases sign <;> cases other <;> rfl
          have hresult : UnpackedFloat.div spec (.finite sign mantissa exponent form.positive)
              (.finite other count place shape.positive)
                = .finite (sign * other) factor lower hform.positive := by
            unfold UnpackedFloat.div
            simp only [hcore, hsign]
            exact round_with_accuracy_eq hform (sign * other) shift
          have hquotient : ((sign.apply mantissa : Int) : ℚ) * 2 ^ exponent
              / ((other.apply count : Int) * 2 ^ place)
                = ((sign * other).apply factor : Int) * 2 ^ lower := by
            have hback : sign * other * other = sign := by
              cases sign <;> cases other <;> rfl
            have hsigned := mul_apply (sign * other) other factor count
            rw [hback, ← Nat.cast_mul] at hsigned
            rw [div_eq_iff hnonzero, apply_eq_of_value sign hproduct, hsigned,
              zpow_add₀ two_ne_zero, Int.cast_mul]
            ring
          rw [hresult, hquotient]
          exact .finite _ hform

/-! ### Packing -/

/-- Packing keeps the value. -/
theorem HasValue.packed (h : HasValue spec value number) :
    HasValue spec (unpack spec (pack spec value)) number := by
  cases h with
  | finite sign form =>
      rw [unpack_pack form sign]
      exact .finite sign form
  | zero sign =>
      have hcapacity := exponent_capacity spec
      have hsmallest : BitVec.ofNat spec.exponentBits 0 ≠ -1#_ := exponent_not_largest (by omega)
      have hzero : unpack spec (pack spec (.zero sign)) = .zero sign := by
        show unpack spec (packComponents spec sign 0#_ 0#_) = .zero sign
        unfold unpack
        simp [hsmallest]
      rw [hzero]
      exact .zero sign

/-- What a word stands for has a value, unless it is an infinity or NaN. -/
theorem exists_value_of_unpack (hbits : 2 ≤ spec.exponentBits) {word : BitVec spec.numBits}
    (hfinite : (unpack spec word).isFinite) :
    ∃ number, HasValue spec (unpack spec word) number := by
  cases hword : unpack spec word with
  | notANumber =>
      rw [hword] at hfinite
      cases hfinite
  | infinity sign =>
      rw [hword] at hfinite
      cases hfinite
  | zero sign => exact ⟨0, .zero sign⟩
  | finite sign mantissa exponent positive =>
      exact ⟨_, .finite sign (canonical_of_unpack hbits hword)⟩

/-! ### Order -/

/-- A number that is held is finite. -/
theorem HasValue.is_finite (h : HasValue spec value number) : value.isFinite := by
  cases h <;> rfl

/-- Nor is it NaN. -/
theorem HasValue.not_nan (h : HasValue spec value number) : value.isNaN = false := by
  cases h <;> rfl

/-- Of two numbers in form, the one with the larger exponent is larger. -/
theorem IsCanonical.lt_of_exponent_lt {mantissa count : Nat} {exponent place : Int}
    (form : IsCanonical spec mantissa exponent) (shape : IsCanonical spec count place)
    (h : exponent < place) : (mantissa : ℚ) * 2 ^ exponent < count * 2 ^ place := by
  have hlowest := form.lowest
  have hfull := shape.full.resolve_right (by omega)
  have hbits := form.bits
  have hmore : mantissa < count * 2 := by
    rw [Format.mantissaBits, Nat.add_comm, pow_succ] at hbits
    omega
  have hpower : (0 : ℚ) < 2 ^ exponent := zpow_pos two_pos exponent
  have hcount : (0 : ℚ) ≤ count := Nat.cast_nonneg count
  calc (mantissa : ℚ) * 2 ^ exponent < (count * 2 : Nat) * 2 ^ exponent :=
        mul_lt_mul_of_pos_right (Nat.cast_lt.mpr hmore) hpower
    _ = count * 2 ^ (exponent + 1) := by
        rw [zpow_add_one₀ two_ne_zero]
        push_cast
        ring
    _ ≤ count * 2 ^ place := mul_le_mul_of_nonneg_left (zpow_le_zpow_right₀ one_le_two h) hcount

/-- Numbers in form are ordered by exponent and mantissa. -/
theorem IsCanonical.lt_iff {mantissa count : Nat} {exponent place : Int}
    (form : IsCanonical spec mantissa exponent) (shape : IsCanonical spec count place) :
    (mantissa : ℚ) * 2 ^ exponent < count * 2 ^ place
      ↔ exponent < place ∨ exponent = place ∧ mantissa < count := by
  rcases lt_trichotomy exponent place with hless | rfl | hgreater
  · exact iff_of_true (form.lt_of_exponent_lt shape hless) (.inl hless)
  · have hpower : (0 : ℚ) < 2 ^ exponent := zpow_pos two_pos exponent
    simp [hpower]
  · refine iff_of_false (shape.lt_of_exponent_lt form hgreater).not_gt ?_
    omega

/-- Floats are ordered like the numbers that they are. -/
theorem HasValue.lt_iff (hleft : HasValue spec left first) (hright : HasValue spec right second) :
    left.lt right ↔ first < second := by
  rw [unpacked_lt_iff hleft.is_finite hright.is_finite]
  cases hleft with
  | zero sign =>
      cases hright with
      | zero other => simp [orderKey]
      | @finite other count place shape =>
          have hshape := value_pos shape.positive place
          cases other <;>
            simp [orderKey, Sign.apply, Prod.Lex.toLex_lt_toLex, hshape, hshape.le]
  | @finite sign mantissa exponent form =>
      have hform := value_pos form.positive exponent
      cases hright with
      | zero other =>
          cases sign <;>
            simp [orderKey, Sign.apply, Prod.Lex.toLex_lt_toLex, hform, hform.le]
      | @finite other count place shape =>
          have hshape := value_pos shape.positive place
          cases sign <;> cases other
          · have hreversed := shape.lt_iff form
            simp [orderKey, Sign.apply, Prod.Lex.toLex_lt_toLex, hreversed, eq_comm]
          · have hless := (neg_neg_of_pos hform).trans hshape
            simp [orderKey, Sign.apply, Prod.Lex.toLex_lt_toLex, hless]
          · have hless := (neg_neg_of_pos hshape).trans hform
            simp [orderKey, Sign.apply, Prod.Lex.toLex_lt_toLex, hless.le]
          · simp [orderKey, Sign.apply, Prod.Lex.toLex_lt_toLex, form.lt_iff shape]

/-- A float is at most another one if its number is. -/
theorem HasValue.le_iff (hleft : HasValue spec left first) (hright : HasValue spec right second) :
    left.le right ↔ first ≤ second := by
  rw [unpacked_le_iff hleft.is_finite hright.is_finite, hright.lt_iff hleft, not_lt]

/-- Floats that compare equal are the same one or two zeros. -/
theorem same_or_zeros_of_beq (h : left.beq right) :
    left = right ∨ ∃ sign other, left = .zero sign ∧ right = .zero other := by
  have hcompare : left.compare right = some .eq := by simpa [UnpackedFloat.beq] using h
  cases left with
  | notANumber => cases hcompare
  | zero sign =>
      cases right with
      | notANumber => cases hcompare
      | infinity other => cases other <;> cases hcompare
      | zero other => exact .inr ⟨sign, other, rfl, rfl⟩
      | finite other _ _ _ => cases other <;> cases hcompare
  | infinity sign =>
      cases right with
      | notANumber => cases sign <;> cases hcompare
      | infinity other => cases sign <;> cases other <;> first | exact .inl rfl | cases hcompare
      | zero other => cases sign <;> cases hcompare
      | finite other _ _ _ => cases sign <;> cases other <;> cases hcompare
  | finite sign mantissa exponent positive =>
      cases right with
      | notANumber => cases hcompare
      | infinity other => cases sign <;> cases other <;> cases hcompare
      | zero other => cases sign <;> cases hcompare
      | finite other count place _ =>
          cases sign <;> cases other <;>
            simp [UnpackedFloat.compare, Ordering.then_eq_eq, Ordering.swap_eq_eq] at hcompare <;>
            obtain ⟨rfl, rfl⟩ := hcompare <;> exact .inl rfl

/-- A float that compares equal to a number is that number. -/
theorem HasValue.of_beq (h : left.beq right) (hright : HasValue spec right number) :
    HasValue spec left number := by
  rcases same_or_zeros_of_beq h with rfl | ⟨sign, other, rfl, rfl⟩
  · exact hright
  · cases hright with
    | zero _ => exact .zero sign

/-! ### Integers -/

/-- Bits that are shifted out of a mantissa are those of a division. -/
theorem shift_right_mantissa (extended : ExtendedMantissa) (shift : Nat) :
    (extended >>> shift).mantissa = extended.mantissa / 2 ^ shift := by
  induction shift with
  | zero => exact (Nat.div_one _).symm
  | succ shift ih =>
      show (extended >>> shift).mantissa / 2 = _
      rw [ih, Nat.div_div_eq_div_mul, pow_succ]

/-- The largest integer that is not above a float. -/
theorem HasValue.floor_eq (h : HasValue spec value number) : floor value = ⌊number⌋ := by
  cases h with
  | zero sign => exact Int.floor_zero.symm
  | @finite sign mantissa exponent form =>
      unfold floor
      dsimp only
      split
      · rename_i hwhole
        have hpower : (2 : ℚ) ^ exponent = (2 ^ exponent.toNat : Nat) := by
          rw [Nat.cast_pow, ← zpow_natCast, Int.toNat_of_nonneg hwhole]
          rfl
        have hinteger : ((sign.apply mantissa : Int) : ℚ) * 2 ^ exponent
            = (sign.apply (mantissa * 2 ^ exponent.toNat : Nat) : Int) := by
          rw [hpower]
          cases sign <;> simp [Sign.apply]
        rw [hinteger, Int.floor_intCast]
        rfl
      · rename_i hbroken
        have hpower : (2 : ℚ) ^ exponent = ((2 ^ (-exponent).toNat : Nat) : ℚ)⁻¹ := by
          rw [Nat.cast_pow, ← zpow_natCast, ← zpow_neg, Int.toNat_of_nonneg (by omega), neg_neg]
          rfl
        rw [hpower, ← div_eq_mul_inv, Rat.floor_intCast_div_natCast]
        rfl

/-- Dropping the fraction of a number that is not negative gives the largest integer not above. -/
theorem HasValue.to_int_eq (h : HasValue spec value number) (hnonnegative : 0 ≤ number)
    (lowest highest : Int) : value.toInt lowest highest = ⌊number⌋ := by
  rw [← h.floor_eq]
  cases h with
  | zero sign => rfl
  | @finite sign mantissa exponent form =>
      cases sign with
      | negative =>
          have hnegative := value_pos form.positive exponent
          simp only [Sign.apply, Int.cast_neg, Int.cast_natCast, neg_mul] at hnonnegative
          linarith
      | positive =>
          show roundToInt .positive mantissa exponent = _
          unfold roundToInt decreaseExponent shiftToExponent floor
          simp only [shift_right_mantissa, Sign.apply]
          split
          · rename_i hwhole
            have hshift : (0 - (exponent - ((exponent - 0).toNat : Int))).toNat = 0 := by omega
            rw [hshift, pow_zero, Int.sub_zero, Nat.shiftLeft_eq]
            exact congrArg Int.ofNat (Nat.div_one _)
          · rename_i hbroken
            have hnone : (exponent - 0).toNat = 0 := by omega
            rw [hnone, Nat.shiftLeft_zero, Nat.cast_zero, Int.sub_zero, Int.zero_sub]
            rfl

end Panorama.Number
