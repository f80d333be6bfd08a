import Panorama.Proofs.Compositor.Tiling
import Panorama.Proofs.Number.Special
import Panorama.Proofs.Number.Value

/-!
# Regions that adjoin

Both edges of a region are rounded on their own: the start to any pixel, and the end to one that the
canvas has. A region that starts where another one ends starts at the pixel where that one ends all
the same, as long as both have pixels. Read `regions_adjoin` first.
-/

namespace Panorama

namespace Number

open Float.Model (UnpackedFloat Format)
open Float.Model.UnpackedFloat

variable {spec : Format} {left right value : UnpackedFloat}

/-! ### The nearest integer -/

/-- The nearest integer is in its range. -/
theorem nearest_le (limit : Nat) (value : UnpackedFloat) : nearest limit value ≤ limit := by
  unfold nearest
  split
  · dsimp only
    split <;> exact Nat.min_le_left _ _
  · exact le_rfl
  · exact Nat.zero_le limit

/-- The nearest integer of a range is also that of a smaller range that it is inside. -/
theorem nearest_eq_of_lt {low high : Nat} (hle : low ≤ high) (h : nearest high value < low) :
    nearest low value = nearest high value := by
  have hmin {whole : Nat} (hwhole : min high whole < low) : min low whole = min high whole := by
    omega
  unfold nearest at h ⊢
  split at h
  · dsimp only at h ⊢
    split_ifs at h ⊢ <;> exact hmin h
  · exact absurd h (not_lt.mpr hle)
  · rfl

/-! ### Positions in pixels -/

/-- A length in pixels is a double. -/
theorem length_has_value (length : UInt32) :
    HasValue .binary64 length.toFloat.toModel.unpack length.toNat := by
  have hheld : Holds .binary64 ((length.toNat : Int) * 2 ^ (0 : Int)) :=
    holds_dyadic (length.toNat_lt.trans (by decide)) (by decide) (by decide)
  have hvalue := normalize_has_value .positive hheld
  rw [zpow_zero, mul_one, Int.cast_natCast] at hvalue
  exact hvalue.packed

/-- What compares equal to something is not NaN. -/
theorem number_of_beq (h : left.beq right) : IsNumber right := by
  cases right with
  | notANumber =>
      cases left with
      | infinity sign => cases sign <;> cases h
      | _ => cases h
  | _ => rfl

/-- A number or an infinity has a product with a number that is not zero. -/
theorem product_number {number : ℚ} (hleft : IsNumber left) (hright : HasValue spec right number)
    (hnonzero : number ≠ 0) : IsNumber (UnpackedFloat.mul spec left right) := by
  cases hright with
  | zero sign => exact absurd rfl hnonzero
  | finite sign form =>
      cases left with
      | notANumber => cases hleft
      | infinity _ => rfl
      | zero _ => rfl
      | finite _ _ _ _ => exact round_with_accuracy_number _ _ _ _ _

/-- The product of a zero and a number is a zero. -/
theorem zero_product {number : ℚ} (sign : Sign) (hright : HasValue spec right number) :
    ∃ side, UnpackedFloat.mul spec (.zero sign) right = .zero side := by
  cases hright with
  | zero _ => exact ⟨_, rfl⟩
  | finite _ _ => exact ⟨_, rfl⟩

/-- Positions that compare equal have the same nearest pixel. -/
theorem nearest_product_eq {position other : Float} (h : position == other) (length : UInt32)
    (limit : Nat) : nearest limit (position * length.toFloat).toModel.unpack
      = nearest limit (other * length.toFloat).toModel.unpack := by
  have hbeq : position.toModel.unpack.beq other.toModel.unpack := h
  show nearest limit (unpack .binary64 (pack .binary64
      (UnpackedFloat.mul .binary64 position.toModel.unpack length.toFloat.toModel.unpack)))
    = nearest limit (unpack .binary64 (pack .binary64
      (UnpackedFloat.mul .binary64 other.toModel.unpack length.toFloat.toModel.unpack)))
  rcases same_or_zeros_of_beq hbeq with hsame | ⟨sign, side, hposition, hother⟩
  · rw [hsame]
  · obtain ⟨product, hproduct⟩ := zero_product sign (length_has_value length)
    obtain ⟨image, himage⟩ := zero_product side (length_has_value length)
    rw [hposition, hother, hproduct, himage]
    cases product <;> cases image <;> rfl

end Number

/-! ### Edges -/

namespace Region

variable {region other : Region} {canvas : Canvas} {position extent next width : Float}
  {length : UInt32}

/-- A region starts at a pixel that has a word. -/
theorem start_pixel_lt (position : Float) (length : UInt32) :
    startPixel position length < UInt32.size :=
  Nat.lt_of_le_pred (by decide) (Number.nearest_le _ _)

/-- A region ends on the canvas. -/
theorem end_pixel_le (position : Float) (length : UInt32) :
    endPixel position length ≤ length.toNat := by
  unfold endPixel
  dsimp only
  split
  · exact le_rfl
  · exact Number.nearest_le _ _

/-- What starts on the canvas at the position where something else ends has the pixel where that
ends for its first one. -/
theorem end_pixel_eq (h : next == position) (hstart : startPixel next length < length.toNat) :
    endPixel position length = startPixel next length := by
  have hbeq : next.toModel.unpack.beq position.toModel.unpack := h
  have hnonzero : (length.toNat : ℚ) ≠ 0 := Nat.cast_ne_zero.mpr (by omega)
  have hnumber : (position * length.toFloat).isNaN = false :=
    Number.unpack_pack_number
      (Number.product_number (Number.number_of_beq hbeq) (Number.length_has_value length) hnonzero)
  unfold startPixel at hstart ⊢
  rw [Number.nearest_product_eq h] at hstart ⊢
  unfold endPixel
  dsimp only
  rw [hnumber, if_neg Bool.false_ne_true]
  exact Number.nearest_eq_of_lt (Nat.le_pred_of_lt length.toNat_lt) hstart

/-- The first of two stretches of pixels ends where the second one, which has pixels on the canvas,
starts. -/
theorem adjoining_pixels (h : next == position + extent)
    (hpixels : 0 < endPixel (position + extent) length - startPixel position length)
    (hnext : 0 < endPixel (next + width) length - startPixel next length) :
    startPixel next length = startPixel position length
      + (endPixel (position + extent) length - startPixel position length) := by
  have hlast := end_pixel_le (next + width) length
  have hend := end_pixel_eq h (show startPixel next length < length.toNat by omega)
  omega

/-- The pixels of a region, without words. -/
theorem to_pixels_to_nat (region : Region) (canvas : Canvas) :
    (region.toPixels canvas).x.toNat = startPixel region.x canvas.width ∧
    (region.toPixels canvas).y.toNat = startPixel region.y canvas.height ∧
    (region.toPixels canvas).width.toNat = endPixel (region.x + region.width) canvas.width
      - startPixel region.x canvas.width ∧
    (region.toPixels canvas).height.toNat = endPixel (region.y + region.height) canvas.height
      - startPixel region.y canvas.height := by
  have hextent (position start : Float) (length : UInt32) :
      endPixel position length - startPixel start length < UInt32.size :=
    (Nat.sub_le _ _).trans_lt ((end_pixel_le _ _).trans_lt length.toNat_lt)
  exact ⟨UInt32.toNat_ofNat_of_lt' (start_pixel_lt _ _),
    UInt32.toNat_ofNat_of_lt' (start_pixel_lt _ _), UInt32.toNat_ofNat_of_lt' (hextent _ _ _),
    UInt32.toNat_ofNat_of_lt' (hextent _ _ _)⟩

/-- Columns of a region start where those of another one end. -/
theorem columns_adjoin (h : other.x == region.x + region.width)
    (hpixels : 0 < (region.toPixels canvas).width.toNat)
    (hnext : 0 < (other.toPixels canvas).width.toNat) :
    (other.toPixels canvas).x.toNat
      = (region.toPixels canvas).x.toNat + (region.toPixels canvas).width.toNat := by
  obtain ⟨hx, _, hwidth, _⟩ := region.to_pixels_to_nat canvas
  obtain ⟨hotherX, _, hotherWidth, _⟩ := other.to_pixels_to_nat canvas
  rw [hwidth] at hpixels ⊢
  rw [hotherWidth] at hnext
  rw [hx, hotherX]
  exact adjoining_pixels h hpixels hnext

/-- So do the rows. -/
theorem rows_adjoin (h : other.y == region.y + region.height)
    (hpixels : 0 < (region.toPixels canvas).height.toNat)
    (hnext : 0 < (other.toPixels canvas).height.toNat) :
    (other.toPixels canvas).y.toNat
      = (region.toPixels canvas).y.toNat + (region.toPixels canvas).height.toNat := by
  obtain ⟨_, hy, _, hheight⟩ := region.to_pixels_to_nat canvas
  obtain ⟨_, hotherY, _, hotherHeight⟩ := other.to_pixels_to_nat canvas
  rw [hheight] at hpixels ⊢
  rw [hotherHeight] at hnext
  rw [hy, hotherY]
  exact adjoining_pixels h hpixels hnext

end Region

/-! ### Adjoining rectangles -/

/-- Two stretches of pixels meet: the second one starts where the first one ends, so that they have
no pixel in common and leave none out between them. -/
structure Meet (start length next extent : Nat) : Prop where
  edge : next = start + length
  apart : Disjoint (Finset.Ico start (start + length)) (Finset.Ico next (next + extent))
  gapless : Finset.Ico start (start + length) ∪ Finset.Ico next (next + extent)
    = Finset.Ico start (next + extent)

/-- For this it is enough that they have the edge in common. -/
theorem Meet.of_edge {start length next extent : Nat} (h : next = start + length) :
    Meet start length next extent where
  edge := h
  apart := by
    rw [h]
    exact Finset.Ico_disjoint_Ico_consecutive _ _ _
  gapless := by
    rw [h]
    exact Finset.Ico_union_Ico_eq_Ico (by omega) (by omega)

namespace Compositor

variable {format : PixelFormat} {crop : Option Crop} {canvas : Canvas} {outputs : List OutputSpec}
  {options : CompositeOptions} {compositor : Compositor}

/-- On the canvas of a merged compositor, regions that share an edge have adjoining rectangles. If
the left edge of a region compares equal to the sum of left edge and width of another one, then its
first column comes right after the last one of the other; and so do the rows. The rectangles do not
intersect, and no column or row is left out between them. -/
theorem regions_adjoin
    (hmake : make format crop outputs (.merged canvas) options = .ok compositor)
    {first second : Nat} {output other : OutputSpec} (houtput : outputs[first]? = some output)
    (hother : outputs[second]? = some other) :
    ∃ rect next : PixelRect,
      compositor.arrangement.placements[first]? = some ⟨0, rect⟩ ∧
      compositor.arrangement.placements[second]? = some ⟨0, next⟩ ∧
      rect = output.region.toPixels canvas ∧ next = other.region.toPixels canvas ∧
      (other.region.x == output.region.x + output.region.width →
        Meet rect.x.toNat rect.width.toNat next.x.toNat next.width.toNat ∧
          rect.intersects next = false) ∧
      (other.region.y == output.region.y + output.region.height →
        Meet rect.y.toNat rect.height.toNat next.y.toNat next.height.toNat ∧
          rect.intersects next = false) := by
  have hmade := made_of_make hmake
  have hlands := lands_of_make hmake
  have hplacement := hmade.placed first output houtput
  have hnext := hmade.placed second other hother
  obtain ⟨_, hfound, hrect⟩ := Failing.exists_of_forall₂ hlands houtput
  cases hplacement.symm.trans hfound
  obtain ⟨_, hfound, hafter⟩ := Failing.exists_of_forall₂ hlands hother
  cases hnext.symm.trans hfound
  obtain ⟨hwidth, hheight⟩ := hrect.occupied
  obtain ⟨hnextWidth, hnextHeight⟩ := hafter.occupied
  have hapart := PixelRect.intersects_iff hrect.fits hafter.fits
  refine ⟨_, _, hplacement, hnext, rfl, rfl, fun hedge ↦ ?_, fun hedge ↦ ?_⟩
  · have hcolumns := Region.columns_adjoin hedge hwidth hnextWidth
    exact ⟨.of_edge hcolumns,
      Bool.eq_false_iff.mpr fun hshared ↦ (hapart.mp hshared).1.2.ne hcolumns⟩
  · have hrows := Region.rows_adjoin hedge hheight hnextHeight
    exact ⟨.of_edge hrows,
      Bool.eq_false_iff.mpr fun hshared ↦ (hapart.mp hshared).2.2.ne hrows⟩

/-- The right half of a canvas of two pixels comes right after the left one. -/
theorem halves_adjoin :
    (half false).region.x == (half true).region.x + (half true).region.width ∧
      Meet 0 1 1 1 ∧ PixelRect.intersects ⟨0, 0, 1, 1⟩ ⟨1, 0, 1, 1⟩ = false := by
  have hedge : (half false).region.x == (half true).region.x + (half true).region.width := by
    decide
  obtain ⟨rect, next, hrect, hnext, _, _, hcolumns, _⟩ :=
    regions_adjoin (make_halves false)
      (show [half true, half false][0]? = some (half true) from rfl)
      (show [half true, half false][1]? = some (half false) from rfl)
  cases hrect
  cases hnext
  exact ⟨hedge, hcolumns hedge⟩

end Compositor

end Panorama
