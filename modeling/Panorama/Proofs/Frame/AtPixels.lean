import Panorama.Proofs.Frame.Source
import Panorama.Proofs.Number.Single

/-!
# Sampling at pixels

A sample at the coordinates of a pixel is the byte of the pixel, with every filter, edge policy and
fill. The filters take neighbors too, which may be outside the plane, but the weights of these are
zero there and the other weights are one, without an error of rounding: coordinates that a template
can have are integers of few bits. Read `PlaneView.IsFull.sample_at_pixel` first.
-/

namespace Panorama

open Number (Equals)

namespace PlaneView

variable {plane : PlaneView} {channel : Nat} {edge : EdgePolicy} {fill : UInt8}
  {column row : Nat} {x y value : Float32} {number : ℚ} {neighbor? : Int → Int → Option Float32}

/-! ### Neighbors -/

/-- The neighbor at a pixel of the plane is the pixel. -/
theorem neighbor_at_pixel {α : Type} [Arithmetic α] (hcolumn : column < plane.width.toNat)
    (hrow : row < plane.height.toNat) :
    (plane.neighbor? channel edge fill column row : Option α)
      = (plane.pixel? column row channel).map fun byte ↦ Arithmetic.ofInt byte.toNat := by
  have hinside {mode : EdgeMode} {length : UInt32} {index : Nat} (h : index < length.toNat) :
      mode.resolve? length index = some (.pixel index) := by
    unfold EdgeMode.resolve?
    rw [if_pos (by omega), Int.toNat_natCast]
  unfold PlaneView.neighbor?
  rw [hinside hcolumn, hinside hrow]
  rfl

/-- A pixel of an axis is not beyond it. -/
theorem not_beyond_at_pixel (mode : EdgeMode) {length : UInt32} (hx : Equals x column)
    (hcolumn : column < length.toNat) (hlength : length.toNat < 2 ^ 22) :
    isBeyond mode length x = false := by
  have hfirst : Equals (Arithmetic.ofInt (-1)) (-1 : Int) := Number.equals_int _ (by decide)
  have hlast : Equals (Arithmetic.ofInt length.toNat) (length.toNat : Int) :=
    Number.equals_int _ (by omega)
  have hbefore : ¬ (column : ℚ) < (-1 : Int) := by
    have := Nat.cast_nonneg (α := ℚ) column
    push_cast
    linarith
  have hbehind : ¬ ((length.toNat : Int) : ℚ) < column := by
    exact_mod_cast hcolumn.le.not_gt
  unfold isBeyond
  rw [hx.less_eq hfirst, hlast.less_eq hx, decide_eq_false hbefore, decide_eq_false hbehind,
    Bool.or_false, Bool.and_false]

/-! ### Weights -/

/-- The largest integer that is not above the coordinate of a pixel is the coordinate. -/
theorem floor_at_pixel {coordinate : Float32} {place : Nat} (h : Equals coordinate place) :
    Arithmetic.floor coordinate = place :=
  h.floor_eq.trans (Int.floor_natCast place)

/-- A pixel is nothing across from itself. -/
theorem across_at_pixel {coordinate : Float32} {place : Nat} (h : Equals coordinate place)
    (hplace : place < 2 ^ 22) :
    Equals (coordinate - Arithmetic.ofInt (Arithmetic.floor coordinate)) 0 := by
  rw [floor_at_pixel h]
  exact h.sub (Number.equals_int place (by omega)) (sub_self _)
    Number.equals_zero.held

/-- The nearness of a pixel to a corner along an axis is one at the pixel itself, and zero one step
away from it. -/
theorem nearness_at_pixel {coordinate : Float32} {place : Nat} (h : Equals coordinate place)
    (hplace : place < 2 ^ 22) {step : Int} (hstep : step = 0 ∨ step = 1) :
    let distance := Arithmetic.abs (Arithmetic.ofInt place + Arithmetic.ofInt step - coordinate)
    Equals (Arithmetic.one - distance * distance) (1 - step) := by
  have hsteps : Equals (Arithmetic.ofInt step) step := Number.equals_int _ (by omega)
  have hcorner : Equals (Arithmetic.ofInt place + Arithmetic.ofInt step) (place + step : Int) :=
    (Number.equals_int place (by omega)).add hsteps (by push_cast; rfl)
      (Number.holds_int _ (by omega))
  have haway : Equals (Arithmetic.ofInt place + Arithmetic.ofInt step - coordinate) step :=
    hcorner.sub h (by push_cast; ring) hsteps.held
  have hdistance := haway.abs Number.equals_zero
  have hsquare : |(step : ℚ)| * |(step : ℚ)| = step := by
    rcases hstep with rfl | rfl <;> norm_num
  refine Number.equals_one.sub (hdistance.mul hdistance hsquare hsteps.held) rfl ?_
  rcases hstep with rfl | rfl
  · simpa using Number.equals_one.held
  · simpa using Number.equals_zero.held

/-- Of the corners around a pixel, the pixel has all the weight. -/
theorem corner_weight_at_pixel (hx : Equals x column) (hy : Equals y row)
    (hcolumn : column < 2 ^ 22) (hrow : row < 2 ^ 22) {right down : Int}
    (hright : right = 0 ∨ right = 1) (hdown : down = 0 ∨ down = 1) :
    Equals (cornerWeight x y (Arithmetic.ofInt column + Arithmetic.ofInt right)
      (Arithmetic.ofInt row + Arithmetic.ofInt down)) ((1 - right) * (1 - down)) := by
  refine (nearness_at_pixel hx hcolumn hright).mul (nearness_at_pixel hy hrow hdown) rfl ?_
  rcases hright with rfl | rfl
  · rcases hdown with rfl | rfl
    · simpa using Number.equals_one.held
    · simpa using Number.equals_zero.held
  · simpa using Number.equals_zero.held

/-! ### Filters -/

section Filters

variable (hx : Equals x column) (hy : Equals y row)
  (hcolumn : column < 2 ^ 22) (hrow : row < 2 ^ 22)
  (hpixel : neighbor? column row = some value) (hvalue : Equals value number)
  (hneighbors : ∀ x y, ∃ value number, neighbor? x y = some value ∧ Equals value number)

include hx hy hcolumn hrow hpixel in
/-- The pixel that is nearest to the coordinates of a pixel is this one. -/
theorem nearest_at_pixel : nearest? neighbor? x y = some value := by
  have htwo : Equals (Arithmetic.ofInt 2) (2 : Int) := Number.equals_int _ (by decide)
  have hhalf : Equals (Arithmetic.one / Arithmetic.ofInt 2) (1 / 2) :=
    Number.equals_one.div htwo (by norm_num) (by norm_num) Number.equals_half.held
  have hplace {coordinate : Float32} {place : Nat} (h : Equals coordinate place)
      (hlimit : place < 2 ^ 22) :
      Arithmetic.floor (coordinate + Arithmetic.one / Arithmetic.ofInt 2) = place := by
    rw [(h.add hhalf rfl (Number.holds_half_above _ (by omega))).floor_eq,
      Number.floor_half_above]
  unfold nearest?
  dsimp only
  rw [hplace hx hcolumn, hplace hy hrow, hpixel]

include hx hy hcolumn hrow hpixel hvalue hneighbors

/-- The bilinear mean at a pixel is the pixel. -/
theorem bilinear_at_pixel : ∃ mean, bilinear? neighbor? x y = some mean ∧ Equals mean number := by
  have hacrossX := across_at_pixel hx hcolumn
  have hacrossY := across_at_pixel hy hrow
  have hrestX := Number.equals_one.sub hacrossX (sub_zero _) Number.equals_one.held
  have hrestY := Number.equals_one.sub hacrossY (sub_zero _) Number.equals_one.held
  -- A mean with all its weight on one value is this value.
  have hmean {first second rest across : Float32} {left right : ℚ} (hfirst : Equals first left)
      (hsecond : Equals second right) (hrest : Equals rest 1) (hacross : Equals across 0) :
      Equals (first * rest + second * across) left :=
    (hfirst.mul hrest (mul_one _) hfirst.held).add
      (hsecond.mul hacross (mul_zero _) Number.equals_zero.held) (add_zero _) hfirst.held
  obtain ⟨topRight, _, htopRight, hright⟩ := hneighbors (column + 1) row
  obtain ⟨bottomLeft, _, hbottomLeft, hbelow⟩ := hneighbors column (row + 1)
  obtain ⟨bottomRight, _, hbottomRight, hcorner⟩ := hneighbors (column + 1) (row + 1)
  unfold bilinear?
  simp only [floor_at_pixel hx, floor_at_pixel hy, hpixel, htopRight, hbottomLeft, hbottomRight,
    Option.bind_eq_bind, Option.bind_some] at hacrossX hacrossY hrestX hrestY ⊢
  exact ⟨_, rfl, hmean (hmean hvalue hright hrestX hacrossX)
    (hmean hbelow hcorner hrestX hacrossX) hrestY hacrossY⟩

/-- The mean of the corners around a pixel is the pixel. -/
theorem biquadratic_at_pixel :
    ∃ mean, biquadratic? neighbor? x y = some mean ∧ Equals mean number := by
  have hweight {right down : Int} (hright : right = 0 ∨ right = 1) (hdown : down = 0 ∨ down = 1) :=
    corner_weight_at_pixel hx hy hcolumn hrow hright hdown
  -- A corner without weight adds nothing, neither to the total nor to the weights.
  have hkeep {total weight other : Float32} {sum others : ℚ} (htotal : Equals total sum)
      (hnone : Equals weight 0) (hother : Equals other others) :
      Equals (total + weight * other) sum :=
    htotal.add (hnone.mul hother (zero_mul _) Number.equals_zero.held) (add_zero _) htotal.held
  have hcount {weights weight : Float32} (hone : Equals weights 1) (hnone : Equals weight 0) :
      Equals (weights + weight) 1 :=
    hone.add hnone (add_zero _) hone.held
  obtain ⟨topRight, _, htopRight, hright⟩ := hneighbors (column + 1) row
  obtain ⟨bottomLeft, _, hbottomLeft, hbelow⟩ := hneighbors column (row + 1)
  obtain ⟨bottomRight, _, hbottomRight, hcorner⟩ := hneighbors (column + 1) (row + 1)
  have hown := hweight (.inl rfl) (.inl rfl)
  have hfirst := hweight (.inr rfl) (.inl rfl)
  have hsecond := hweight (.inl rfl) (.inr rfl)
  have hthird := hweight (.inr rfl) (.inr rfl)
  norm_num at hown hfirst hsecond hthird
  have htotal := Number.equals_zero.add (hown.mul hvalue (one_mul _) hvalue.held) (zero_add _)
    hvalue.held
  have hweights := Number.equals_zero.add hown (zero_add _) hown.held
  unfold biquadratic?
  simp only [corners, List.foldlM_cons, List.foldlM_nil, floor_at_pixel hx, floor_at_pixel hy,
    add_zero, hpixel, htopRight, hbottomLeft, hbottomRight, Option.bind_eq_bind, Option.bind_some,
    Option.pure_def]
  exact ⟨_, rfl, (hkeep (hkeep (hkeep htotal hfirst hright) hsecond hbelow) hthird hcorner).div
    (hcount (hcount (hcount hweights hfirst) hsecond) hthird) one_ne_zero (div_one _) hvalue.held⟩

end Filters

/-! ### Samples -/

/-- A sample at the coordinates of a pixel is the byte of the pixel, whatever the filter, the edge
policy and the fill are. -/
theorem IsFull.sample_at_pixel (h : plane.IsFull channel) (hwidth : plane.width.toNat < 2 ^ 22)
    (hheight : plane.height.toNat < 2 ^ 22) (hx : Equals x column) (hy : Equals y row)
    (hcolumn : column < plane.width.toNat) (hrow : row < plane.height.toNat)
    (interpolation : Interpolation) (edge : EdgePolicy) (fill : UInt8) :
    ∃ byte value, plane.pixel? column row channel = some byte ∧
      plane.sample? channel interpolation edge fill x y = some value ∧
        Equals value byte.toNat := by
  obtain ⟨byte, hbyte⟩ := h.pixel column row hcolumn hrow
  have hpixel : plane.neighbor? channel edge fill column row
      = some (Arithmetic.ofInt byte.toNat : Float32) := by
    rw [neighbor_at_pixel hcolumn hrow, hbyte]
    rfl
  have hvalue := Number.equals_byte byte
  have hneighbors (x y : Int) : ∃ (value : Float32) (number : ℚ),
      plane.neighbor? channel edge fill x y = some value ∧ Equals value number := by
    obtain ⟨other, hother⟩ := h.neighbor_byte (α := Float32) edge fill x y
    exact ⟨_, _, hother, Number.equals_byte other⟩
  have hcolumnLimit := hcolumn.trans hwidth
  have hrowLimit := hrow.trans hheight
  refine ⟨byte, ?_⟩
  unfold sample?
  rw [not_beyond_at_pixel _ hx hcolumn hwidth, not_beyond_at_pixel _ hy hrow hheight]
  cases interpolation with
  | nearest =>
      exact ⟨_, hbyte, nearest_at_pixel hx hy hcolumnLimit hrowLimit hpixel, hvalue⟩
  | bilinear =>
      obtain ⟨mean, hmean, hnumber⟩ :=
        bilinear_at_pixel hx hy hcolumnLimit hrowLimit hpixel hvalue hneighbors
      exact ⟨mean, hbyte, hmean, hnumber⟩
  | biquadratic =>
      obtain ⟨mean, hmean, hnumber⟩ :=
        biquadratic_at_pixel hx hy hcolumnLimit hrowLimit hpixel hvalue hneighbors
      exact ⟨mean, hbyte, hmean, hnumber⟩

end PlaneView

end Panorama
