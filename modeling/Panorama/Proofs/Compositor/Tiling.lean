import Panorama.Proofs.Compositor.Arrangement

/-!
# Canvases that are tiled

Whether a merged canvas has to be cleared is decided from the corners and areas of the places on it,
without looking at a pixel. `Arrangement.overlaps_iff` says what the comparison of corners finds out
about pixels, `Arrangement.tiles_iff` what the sum of areas adds to it, and
`Compositor.clears_unless_tiled` is what both decide for a compositor that is made.
-/

namespace Panorama

namespace PixelRect

variable {rect other : PixelRect} {canvas : Canvas}

/-- Rectangles on a canvas are compared by the ends that they have on it. -/
theorem intersects_iff (h : rect.fits canvas) (hother : other.fits canvas) :
    rect.intersects other ↔
      (rect.x.toNat < other.x.toNat + other.width.toNat ∧
        other.x.toNat < rect.x.toNat + rect.width.toNat) ∧
      rect.y.toNat < other.y.toNat + other.height.toNat ∧
        other.y.toNat < rect.y.toNat + rect.height.toNat := by
  obtain ⟨hright, hbottom⟩ := end_to_nat h
  obtain ⟨hotherRight, hotherBottom⟩ := end_to_nat hother
  simp only [intersects, Bool.and_eq_true, decide_eq_true_eq, UInt32.lt_iff_toNat_lt, hright,
    hbottom, hotherRight, hotherBottom, and_assoc]

/-- A rectangle that is not empty. -/
def Occupied (rect : PixelRect) : Prop := 0 < rect.width.toNat ∧ 0 < rect.height.toNat

/-- Rectangles on a canvas that are not empty intersect if they have a pixel in common. -/
theorem intersects_iff_exists (h : rect.fits canvas) (hother : other.fits canvas)
    (hoccupied : rect.Occupied) (hotherOccupied : other.Occupied) :
    rect.intersects other ↔ ∃ x y, rect.contains x y ∧ other.contains x y := by
  obtain ⟨hwidth, hheight⟩ := hoccupied
  obtain ⟨hotherWidth, hotherHeight⟩ := hotherOccupied
  rw [intersects_iff h hother]
  simp only [contains, Bool.and_eq_true, decide_eq_true_eq]
  constructor
  · intro hcrossed
    -- The pixel where both have begun and neither has ended.
    refine ⟨max rect.x.toNat other.x.toNat, max rect.y.toNat other.y.toNat, ?_, ?_⟩ <;> omega
  · intro hshared
    obtain ⟨x, y, hpixel, hotherPixel⟩ := hshared
    omega

/-- The pixels that a rectangle on a canvas contains are pixels of the canvas. -/
theorem contains_lt (h : rect.fits canvas) {x y : Nat} (hpixel : rect.contains x y) :
    x < canvas.width.toNat ∧ y < canvas.height.toNat := by
  have hmem := pixels_subset h (mem_pixels_iff.mpr hpixel)
  rwa [Finset.mem_product, Finset.mem_range, Finset.mem_range] at hmem

end PixelRect

namespace Arrangement

variable {rects : List PixelRect} {canvas : Canvas}

/-- Rectangles do not overlap if no earlier one intersects a later one. -/
theorem overlaps_eq_false_iff :
    overlaps rects = false ↔ rects.Pairwise fun earlier later ↦ ¬earlier.intersects later := by
  induction rects with
  | nil => exact ⟨fun _ ↦ .nil, fun _ ↦ rfl⟩
  | cons rect rects ih =>
      rw [overlaps, Bool.or_eq_false_iff, List.any_eq_false, ih, List.pairwise_cons]

/-- Two of the rectangles, at different positions, contain a pixel. -/
def Shared (rects : List PixelRect) (x y : Nat) : Prop :=
  ∃ (first second : Nat) (earlier later : PixelRect), first < second ∧
    rects[first]? = some earlier ∧ rects[second]? = some later ∧
      earlier.contains x y ∧ later.contains x y

/-- Rectangles on a canvas that are not empty overlap if two of them have a pixel of the canvas in
common. -/
theorem overlaps_iff (hfits : ∀ rect ∈ rects, rect.fits canvas)
    (hoccupied : ∀ rect ∈ rects, rect.Occupied) :
    overlaps rects ↔
      ∃ x y, x < canvas.width.toNat ∧ y < canvas.height.toNat ∧ Shared rects x y := by
  have hshared {first second : Nat} {earlier later : PixelRect}
      (hearlier : rects[first]? = some earlier) (hlater : rects[second]? = some later) :
      earlier.intersects later ↔ ∃ x y, earlier.contains x y ∧ later.contains x y :=
    PixelRect.intersects_iff_exists (hfits _ (List.mem_of_getElem? hearlier))
      (hfits _ (List.mem_of_getElem? hlater)) (hoccupied _ (List.mem_of_getElem? hearlier))
      (hoccupied _ (List.mem_of_getElem? hlater))
  rw [← not_iff_not, Bool.not_eq_true, overlaps_eq_false_iff, List.pairwise_iff_getElem]
  constructor
  · intro hapart hpixel
    obtain ⟨x, y, _, _, first, second, earlier, later, hlt, hearlier, hlater, hcontains⟩ := hpixel
    obtain ⟨hfirst, rfl⟩ := List.getElem?_eq_some_iff.mp hearlier
    obtain ⟨hsecond, rfl⟩ := List.getElem?_eq_some_iff.mp hlater
    exact hapart first second hfirst hsecond hlt ((hshared hearlier hlater).mpr ⟨x, y, hcontains⟩)
  · intro hnone first second hfirst hsecond hlt hintersects
    have hearlier := List.getElem?_eq_getElem hfirst
    have hlater := List.getElem?_eq_getElem hsecond
    obtain ⟨x, y, hcontains⟩ := (hshared hearlier hlater).mp hintersects
    obtain ⟨hx, hy⟩ := PixelRect.contains_lt (hfits _ (List.getElem_mem hfirst)) hcontains.1
    exact hnone ⟨x, y, hx, hy, first, second, _, _, hlt, hearlier, hlater, hcontains⟩

/-- Every pixel of a canvas is in exactly one of the rectangles. -/
def Tiles (rects : List PixelRect) (canvas : Canvas) : Prop :=
  ∀ x y, x < canvas.width.toNat → y < canvas.height.toNat →
    ∃! position : Nat, ∃ rect : PixelRect, rects[position]? = some rect ∧ rect.contains x y

/-- The pixels of rectangles on a canvas are pixels of the canvas. -/
theorem covered_subset (hfits : ∀ rect ∈ rects, rect.fits canvas) :
    covered rects ⊆ Finset.range canvas.width.toNat ×ˢ Finset.range canvas.height.toNat := by
  intro pixel hpixel
  obtain ⟨rect, hrect, hmem⟩ := mem_covered_iff.mp hpixel
  exact PixelRect.pixels_subset (hfits rect hrect) hmem

/-- Rectangles on a canvas that do not overlap have together at most as many pixels as it has. -/
theorem sum_le_area (hfits : ∀ rect ∈ rects, rect.fits canvas) (h : overlaps rects = false) :
    (rects.map fun rect ↦ rect.size.area).sum ≤ canvas.area := by
  have hcard := Finset.card_le_card (covered_subset hfits)
  rwa [card_covered hfits h, Finset.card_product, Finset.card_range, Finset.card_range] at hcard

/-- The areas of rectangles that do not overlap may be summed in words: a sum that wraps around
would be larger than the canvas. -/
theorem sum_eq_area_of_words (hfits : ∀ rect ∈ rects, rect.fits canvas)
    (h : overlaps rects = false)
    (hwords : UInt64.ofNat (rects.map fun rect ↦ rect.size.area).sum = .ofNat canvas.area) :
    (rects.map fun rect ↦ rect.size.area).sum = canvas.area := by
  have hsum := sum_le_area hfits h
  have harea : canvas.area < UInt64.size := by
    calc canvas.area < UInt32.size * UInt32.size :=
          Nat.mul_lt_mul'' canvas.width.toNat_lt canvas.height.toNat_lt
      _ = UInt64.size := by decide
  have hsame := congrArg UInt64.toNat hwords
  rwa [UInt64.toNat_ofNat_of_lt' (hsum.trans_lt harea), UInt64.toNat_ofNat_of_lt' harea] at hsame

/-- Rectangles of a tiling have no pixel in common. -/
theorem Tiles.apart (h : Tiles rects canvas) (hfits : ∀ rect ∈ rects, rect.fits canvas)
    (hoccupied : ∀ rect ∈ rects, rect.Occupied) : overlaps rects = false := by
  rw [← Bool.not_eq_true, overlaps_iff hfits hoccupied]
  intro hpixel
  obtain ⟨x, y, hx, hy, first, second, earlier, later, hlt, hearlier, hlater, hfirst, hsecond⟩ :=
    hpixel
  have hsame := (h x y hx hy).unique ⟨earlier, hearlier, hfirst⟩ ⟨later, hlater, hsecond⟩
  exact absurd hsame hlt.ne

/-- Rectangles of a tiling have together as many pixels as the canvas. -/
theorem Tiles.area (h : Tiles rects canvas) (hfits : ∀ rect ∈ rects, rect.fits canvas)
    (hoccupied : ∀ rect ∈ rects, rect.Occupied) :
    (rects.map fun rect ↦ rect.size.area).sum = canvas.area := by
  have hall : covered rects
      = Finset.range canvas.width.toNat ×ˢ Finset.range canvas.height.toNat := by
    refine (covered_subset hfits).antisymm ?_
    rintro ⟨x, y⟩ hpixel
    rw [Finset.mem_product, Finset.mem_range, Finset.mem_range] at hpixel
    obtain ⟨position, rect, hrect, hcontains⟩ := (h x y hpixel.1 hpixel.2).exists
    exact mem_covered_iff.mpr ⟨rect, List.mem_of_getElem? hrect,
      PixelRect.mem_pixels_iff.mpr hcontains⟩
  rw [← card_covered hfits (h.apart hfits hoccupied), hall, Finset.card_product,
    Finset.card_range, Finset.card_range]
  rfl

/-- Rectangles on a canvas that are not empty tile it if they do not overlap and have together as
many pixels as it has. -/
theorem tiles_iff (hfits : ∀ rect ∈ rects, rect.fits canvas)
    (hoccupied : ∀ rect ∈ rects, rect.Occupied) :
    Tiles rects canvas ↔ (rects.map fun rect ↦ rect.size.area).sum = canvas.area ∧
      overlaps rects = false := by
  refine ⟨fun h ↦ ⟨h.area hfits hoccupied, h.apart hfits hoccupied⟩, ?_⟩
  rintro ⟨harea, hapart⟩ x y hx hy
  obtain ⟨rect, hrect, hcontains⟩ := exists_of_tiling hfits hapart harea hx hy
  obtain ⟨position, hposition⟩ := List.getElem?_of_mem hrect
  refine ⟨position, ⟨rect, hposition, hcontains⟩, ?_⟩
  rintro other ⟨otherRect, hother, hotherContains⟩
  rw [← Bool.not_eq_true, overlaps_iff hfits hoccupied] at hapart
  -- A second rectangle with the pixel would stand in front of the first one or behind it.
  rcases Nat.lt_trichotomy other position with hlt | heq | hgt
  · exact absurd ⟨x, y, hx, hy, other, position, _, _, hlt, hother, hposition, hotherContains,
      hcontains⟩ hapart
  · exact heq
  · exact absurd ⟨x, y, hx, hy, position, other, _, _, hgt, hposition, hother, hcontains,
      hotherContains⟩ hapart

/-- The areas of the rectangles may be summed in words. -/
theorem tiles_iff_words (hfits : ∀ rect ∈ rects, rect.fits canvas)
    (hoccupied : ∀ rect ∈ rects, rect.Occupied) :
    Tiles rects canvas ↔
      UInt64.ofNat (rects.map fun rect ↦ rect.size.area).sum = .ofNat canvas.area ∧
        overlaps rects = false := by
  rw [tiles_iff hfits hoccupied]
  constructor
  · rintro ⟨harea, hapart⟩
    exact ⟨congrArg UInt64.ofNat harea, hapart⟩
  · rintro ⟨hwords, hapart⟩
    exact ⟨sum_eq_area_of_words hfits hapart hwords, hapart⟩

/-- A merged arrangement is cleared unless its places have together as many pixels as the canvas and
do not overlap. -/
theorem prefill_eq_false_iff {format : PixelFormat} {outputs : List OutputSpec}
    {arrangement : Arrangement} (h : merged format canvas outputs = .ok arrangement) :
    arrangement.prefill = false ↔
      ((arrangement.placements.map Placement.rect).map fun rect ↦ rect.size.area).sum = canvas.area
        ∧ overlaps (arrangement.placements.map Placement.rect) = false := by
  unfold merged at h
  simp only [Failing.bind_eq_ok_iff] at h
  obtain ⟨_, _, placements, _, harrangement⟩ := h
  cases harrangement
  rw [Bool.not_eq_false', Bool.and_eq_true, decide_eq_true_eq, Bool.not_eq_true',
    ← List.sum_eq_foldl_nat]

end Arrangement

namespace Compositor

variable {format : PixelFormat} {crop : Option Crop} {canvas : Canvas} {outputs : List OutputSpec}
  {options : CompositeOptions} {compositor : Compositor}

/-- Where a compositor with a merged canvas puts an output: on the canvas, in a rectangle of the
template's size that is not empty. -/
structure Lands (canvas : Canvas) (output : OutputSpec) (placement : Placement) : Prop where
  frame : placement.frame = 0
  size : placement.rect.size = output.template.size
  occupied : placement.rect.Occupied
  fits : placement.rect.fits canvas

/-- Every output of a merged compositor lands on the canvas. -/
theorem lands_of_make (h : make format crop outputs (.merged canvas) options = .ok compositor) :
    List.Forall₂ (Lands canvas) outputs compositor.arrangement.placements := by
  obtain ⟨_, _, inputs, arrangement, houtputs, _, harrangement, rfl⟩ := make_eq_ok_iff.mp h
  obtain ⟨_, _, hplaced⟩ := Failing.bind_eq_ok_iff.mp harrangement
  obtain ⟨placements, hplacements, hresult⟩ := Failing.bind_eq_ok_iff.mp hplaced
  cases hresult
  have hplaces := Arrangement.place_from_eq_ok_iff.mp hplacements
  rw [List.forall₂_iff_get] at hplaces ⊢
  obtain ⟨hlength, hplaces⟩ := hplaces
  refine ⟨hlength, fun index hindex hother ↦ ?_⟩
  obtain ⟨hplace, hsuits⟩ := hplaces index hindex hother
  have hoccupied := (PixelFormat.check_size_eq_ok_iff.mp
    (houtputs _ (List.get_mem outputs ⟨index, hindex⟩)).2).1
  rw [← hsuits.size] at hoccupied
  obtain ⟨size, hsize, hfits⟩ := hsuits.fits
  rw [show (placements.get ⟨index, hother⟩).frame = 0 by rw [hplace]] at hsize
  cases hsize
  exact ⟨by rw [hplace], hsuits.size, hoccupied, hfits⟩

/-- A merged compositor clears its canvas before it paints, unless every pixel of the canvas is in
exactly one place. All places are on the canvas and not empty, and what is called an overlap are two
places with a pixel in common. Summing the areas of the places in words makes no difference. -/
theorem clears_unless_tiled
    (hmake : make format crop outputs (.merged canvas) options = .ok compositor) :
    List.Forall₂ (Lands canvas) outputs compositor.arrangement.placements ∧
    (Arrangement.overlaps (compositor.arrangement.placements.map Placement.rect) ↔
      ∃ x y, x < canvas.width.toNat ∧ y < canvas.height.toNat ∧
        Arrangement.Shared (compositor.arrangement.placements.map Placement.rect) x y) ∧
    (compositor.arrangement.prefill = false ↔
      Arrangement.Tiles (compositor.arrangement.placements.map Placement.rect) canvas) ∧
    (compositor.arrangement.prefill = false ↔
      UInt64.ofNat ((compositor.arrangement.placements.map Placement.rect).map
        fun rect ↦ rect.size.area).sum = .ofNat canvas.area ∧
      Arrangement.overlaps (compositor.arrangement.placements.map Placement.rect) = false) := by
  have hlands := lands_of_make hmake
  have hrects (rect : PixelRect)
      (hrect : rect ∈ compositor.arrangement.placements.map Placement.rect) :
      rect.fits canvas ∧ rect.Occupied := by
    obtain ⟨placement, hplacement, rfl⟩ := List.mem_map.mp hrect
    obtain ⟨index, hindex⟩ := List.getElem?_of_mem hplacement
    obtain ⟨output, _, hlands⟩ := Failing.exists_of_forall₂ hlands.flip hindex
    exact ⟨hlands.fits, hlands.occupied⟩
  have hfits := fun rect hrect ↦ (hrects rect hrect).1
  have hoccupied := fun rect hrect ↦ (hrects rect hrect).2
  have hprefill : compositor.arrangement.prefill = false ↔
      Arrangement.Tiles (compositor.arrangement.placements.map Placement.rect) canvas := by
    obtain ⟨_, _, _, arrangement, _, _, harrangement, rfl⟩ := make_eq_ok_iff.mp hmake
    rw [Arrangement.prefill_eq_false_iff harrangement, Arrangement.tiles_iff hfits hoccupied]
  exact ⟨hlands, Arrangement.overlaps_iff hfits hoccupied, hprefill,
    hprefill.trans (Arrangement.tiles_iff_words hfits hoccupied)⟩

/-- An output of one pixel that shows nothing, on the left or right half of a canvas. -/
def half (left : Bool) : OutputSpec where
  template :=
    { size := ⟨1, 1⟩, inputs := [⟨1, 1⟩], region := .full, blend := .weighted, gain := .off
      edge := .fill, table := ⟨#[0, 0], #[]⟩ }
  blend := .weighted
  region := ⟨if left then 0 else 0.5, 0, 0.5, 1⟩

/-- The left half of a canvas of two pixels, and then one of its halves. -/
def halves (left : Bool) : Compositor where
  format := .gray8
  crop := none
  options := ⟨.nearest, none, none⟩
  outputs := [half true, half left]
  inputs := [⟨1, 1⟩]
  arrangement := ⟨[⟨2, 1⟩], [⟨0, ⟨0, 0, 1, 1⟩⟩, ⟨0, ⟨if left then 0 else 1, 0, 1, 1⟩⟩], left⟩

/-- A compositor is made of any two halves. -/
theorem make_halves (left : Bool) :
    make .gray8 none [half true, half left] (.merged ⟨2, 1⟩) ⟨.nearest, none, none⟩
      = .ok (halves left) := by
  cases left <;> decide +kernel

/-- Two different halves tile the canvas, so that it is not cleared. The same half twice is an
overlap and leaves the other one to be cleared. -/
theorem halves_clear : Arrangement.Tiles [⟨0, 0, 1, 1⟩, ⟨1, 0, 1, 1⟩] ⟨2, 1⟩ ∧
    ¬Arrangement.Tiles [⟨0, 0, 1, 1⟩, ⟨0, 0, 1, 1⟩] ⟨2, 1⟩ :=
  ⟨(clears_unless_tiled (make_halves false)).2.2.1.mp rfl,
    fun htiles ↦ Bool.noConfusion ((clears_unless_tiled (make_halves true)).2.2.1.mpr htiles)⟩

end Compositor

end Panorama
