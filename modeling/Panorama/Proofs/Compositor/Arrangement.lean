import Panorama.Compositor.Basic
import Panorama.Proofs.Frame.Fresh

/-!
# Where the outputs of a compositor go

Every output of a compositor is where the layout places it (`Arrangement.placement_of_make`): in a
rectangle of its template's size inside one of the produced frames, which on a merged canvas with
chroma planes cuts through no chroma pixel. Frames that are not cleared have no pixel without an
output: `Arrangement.exists_of_tiling` counts pixels, since places that do not overlap and are as
large as the canvas together cover it.
-/

namespace Panorama

/-! ### Tilings -/

namespace PixelRect

/-- The pixels of a rectangle. -/
def pixels (rect : PixelRect) : Finset (Nat × Nat) :=
  Finset.Ico rect.x.toNat (rect.x.toNat + rect.width.toNat) ×ˢ
    Finset.Ico rect.y.toNat (rect.y.toNat + rect.height.toNat)

variable {rect other : PixelRect} {canvas : Canvas}

/-- A pixel belongs to the rectangle if it is one of its pixels. -/
theorem mem_pixels_iff {x y : Nat} : (x, y) ∈ rect.pixels ↔ rect.contains x y := by
  simp [pixels, contains, and_assoc]

/-- A rectangle has as many pixels as its size. -/
theorem card_pixels (rect : PixelRect) : rect.pixels.card = rect.size.area := by
  rw [pixels, Finset.card_product, Nat.card_Ico, Nat.card_Ico, Nat.add_sub_cancel_left,
    Nat.add_sub_cancel_left]
  rfl

/-- The pixels of a rectangle on a canvas are pixels of the canvas. -/
theorem pixels_subset (h : rect.fits canvas) :
    rect.pixels ⊆ Finset.range canvas.width.toNat ×ˢ Finset.range canvas.height.toNat := by
  simp only [fits, Bool.and_eq_true, decide_eq_true_eq] at h
  rintro ⟨x, y⟩ hpixel
  simp only [pixels, Finset.mem_product, Finset.mem_Ico, Finset.mem_range] at hpixel ⊢
  omega

/-- The ends of a rectangle on a canvas do not wrap around. -/
theorem end_to_nat (h : rect.fits canvas) :
    (rect.x + rect.width).toNat = rect.x.toNat + rect.width.toNat ∧
      (rect.y + rect.height).toNat = rect.y.toNat + rect.height.toNat := by
  simp only [fits, Bool.and_eq_true, decide_eq_true_eq] at h
  have hwidth := canvas.width.toNat_lt
  have hheight := canvas.height.toNat_lt
  rw [UInt32.toNat_add, UInt32.toNat_add, Nat.mod_eq_of_lt (by omega), Nat.mod_eq_of_lt (by omega)]
  exact ⟨rfl, rfl⟩

/-- Two rectangles on a canvas that do not intersect have no pixel in common. -/
theorem disjoint_of_not_intersects (h : rect.fits canvas) (hother : other.fits canvas)
    (hintersects : rect.intersects other = false) : Disjoint rect.pixels other.pixels := by
  obtain ⟨hright, hbottom⟩ := end_to_nat h
  obtain ⟨hotherRight, hotherBottom⟩ := end_to_nat hother
  rw [Finset.disjoint_left]
  rintro ⟨x, y⟩ hpixel hotherPixel
  rw [mem_pixels_iff] at hpixel hotherPixel
  rw [← Bool.not_eq_true] at hintersects
  simp only [intersects, contains, Bool.and_eq_true, decide_eq_true_eq, UInt32.lt_iff_toNat_lt]
    at hintersects hpixel hotherPixel
  omega

end PixelRect

namespace Arrangement

/-- The pixels of several rectangles. -/
def covered (rects : List PixelRect) : Finset (Nat × Nat) :=
  rects.foldr (fun rect pixels ↦ rect.pixels ∪ pixels) ∅

variable {rects : List PixelRect} {canvas : Canvas}

/-- A pixel is covered if a rectangle contains it. -/
theorem mem_covered_iff {pixel : Nat × Nat} :
    pixel ∈ covered rects ↔ ∃ rect ∈ rects, pixel ∈ rect.pixels := by
  induction rects with
  | nil => simp [covered]
  | cons rect rects ih =>
      rw [covered, List.foldr_cons, Finset.mem_union]
      simp only [List.mem_cons, exists_eq_or_imp]
      exact or_congr_right ih

/-- Rectangles on a canvas that do not overlap cover as many pixels as they have together. -/
theorem card_covered (hfits : ∀ rect ∈ rects, rect.fits canvas) (h : overlaps rects = false) :
    (covered rects).card = (rects.map fun rect ↦ rect.size.area).sum := by
  induction rects with
  | nil => rfl
  | cons rect rects ih =>
      rw [overlaps, Bool.or_eq_false_iff, List.any_eq_false] at h
      obtain ⟨hfirst, hrest⟩ := h
      have hdisjoint : Disjoint rect.pixels (covered rects) := by
        rw [Finset.disjoint_left]
        intro pixel hpixel hcovered
        obtain ⟨other, hother, hotherPixel⟩ := mem_covered_iff.mp hcovered
        exact Finset.disjoint_left.mp (PixelRect.disjoint_of_not_intersects
          (hfits rect List.mem_cons_self) (hfits other (List.mem_cons_of_mem _ hother))
          (Bool.eq_false_iff.mpr (hfirst other hother))) hpixel hotherPixel
      calc (covered (rect :: rects)).card
          = rect.pixels.card + (covered rects).card := Finset.card_union_of_disjoint hdisjoint
        _ = rect.size.area + (rects.map fun rect ↦ rect.size.area).sum := by
            rw [rect.card_pixels, ih (fun other hother ↦
              hfits other (List.mem_cons_of_mem _ hother)) hrest]
        _ = ((rect :: rects).map fun rect ↦ rect.size.area).sum := by
            rw [List.map_cons, List.sum_cons]

/-- Rectangles on a canvas that do not overlap and are as large as the canvas together contain every
pixel of it. -/
theorem exists_of_tiling (hfits : ∀ rect ∈ rects, rect.fits canvas) (h : overlaps rects = false)
    (harea : (rects.map fun rect ↦ rect.size.area).sum = canvas.area) {x y : Nat}
    (hx : x < canvas.width.toNat) (hy : y < canvas.height.toNat) :
    ∃ rect ∈ rects, rect.contains x y := by
  have hsubset : covered rects
      ⊆ Finset.range canvas.width.toNat ×ˢ Finset.range canvas.height.toNat := by
    intro pixel hpixel
    obtain ⟨rect, hrect, hpixel⟩ := mem_covered_iff.mp hpixel
    exact PixelRect.pixels_subset (hfits rect hrect) hpixel
  have hall : covered rects
      = Finset.range canvas.width.toNat ×ˢ Finset.range canvas.height.toNat := by
    -- A part of the canvas that has as many pixels as the canvas is the whole of it.
    refine Finset.eq_of_subset_of_card_le hsubset ?_
    rw [card_covered hfits h, harea, Finset.card_product, Finset.card_range, Finset.card_range]
    exact le_rfl
  have hpixel : (x, y) ∈ covered rects := by
    rw [hall]
    exact Finset.mem_product.mpr ⟨Finset.mem_range.mpr hx, Finset.mem_range.mpr hy⟩
  obtain ⟨rect, hrect, hcontains⟩ := mem_covered_iff.mp hpixel
  exact ⟨rect, hrect, PixelRect.mem_pixels_iff.mp hcontains⟩

end Arrangement

/-! ### Arrangements that are made -/

/-- The place of the output at a position: all of a frame of its own, or its region on the
canvas. -/
def OutputLayout.placement (layout : OutputLayout) (position : Nat) (output : OutputSpec) :
    Placement :=
  match layout with
  | .separate => ⟨position, .ofCanvas output.template.size⟩
  | .merged canvas => ⟨0, output.region.toPixels canvas⟩

namespace Arrangement

variable {format : PixelFormat} {canvas : Canvas} {outputs : List OutputSpec}
  {arrangement : Arrangement}

/-- A place has the size of the template, lies inside its frame and cuts through no chroma pixel. -/
structure Suits (format : PixelFormat) (frames : List Canvas) (output : OutputSpec)
    (placement : Placement) : Prop where
  size : placement.rect.size = output.template.size
  fits : ∃ size, frames[placement.frame]? = some size ∧ placement.rect.fits size
  even : format.isChromaSubsampled →
    placement.rect.x.toNat % 2 = 0 ∧ placement.rect.y.toNat % 2 = 0

/-- The place of an output on a canvas is that of its region, if this suits the output. -/
theorem place_eq_ok_iff {index : Nat} {output : OutputSpec} {placement : Placement} :
    place format canvas index output = .ok placement ↔
      placement = ⟨0, output.region.toPixels canvas⟩ ∧ Suits format [canvas] output placement := by
  constructor
  · intro h
    unfold place at h
    dsimp only at h
    split at h
    · cases h
    · rename_i hsize
      split at h
      · cases h
      · rename_i hchroma
        cases h
        simp only [Bool.or_eq_true, not_or, ne_eq, decide_not, Bool.not_eq_true',
          decide_eq_false_iff_not, not_not, Bool.not_eq_false] at hsize
        refine ⟨rfl, hsize.1, ⟨canvas, rfl, hsize.2⟩, fun hsubsampled ↦ ?_⟩
        rw [hsubsampled, Bool.true_and, Bool.not_eq_true, Bool.or_eq_false_iff, even_iff, even_iff]
          at hchroma
        exact hchroma
  · rintro ⟨rfl, hsize, ⟨size, hcanvas, hfits⟩, heven⟩
    cases hcanvas
    unfold place
    dsimp only at hsize hfits heven ⊢
    rw [if_neg (by simp [hsize, hfits])]
    refine if_neg fun hodd ↦ ?_
    obtain ⟨hsubsampled, hodd⟩ := Bool.and_eq_true_iff.mp hodd
    obtain ⟨hx, hy⟩ := heven hsubsampled
    rw [(even_iff _).mpr hx, (even_iff _).mpr hy] at hodd
    cases hodd

/-- The places of outputs on a canvas are those of their regions, if these suit the outputs. -/
theorem place_from_eq_ok_iff {index : Nat} {placements : List Placement} :
    placeFrom format canvas index outputs = .ok placements ↔
      List.Forall₂ (fun output placement ↦ placement = ⟨0, output.region.toPixels canvas⟩ ∧
        Suits format [canvas] output placement) outputs placements := by
  induction outputs generalizing index placements with
  | nil => simp [placeFrom, eq_comm]
  | cons output outputs ih =>
      unfold placeFrom
      simp only [Failing.bind_eq_ok_iff, place_eq_ok_iff, ih, List.forall₂_cons_left_iff]
      constructor
      · rintro ⟨first, hfirst, rest, hrest, hplacements⟩
        cases hplacements
        exact ⟨first, rest, hfirst, hrest, rfl⟩
      · rintro ⟨first, rest, hfirst, hrest, rfl⟩
        exact ⟨first, hfirst, rest, hrest, rfl⟩

/-- Every output has a place that suits it, every frame has a size that the format accepts, and
frames that are not cleared are covered. -/
structure Complete (format : PixelFormat) (outputs : List OutputSpec) (arrangement : Arrangement) :
    Prop where
  places : List.Forall₂ (Suits format arrangement.frames) outputs arrangement.placements
  frames : ∀ size ∈ arrangement.frames, format.checkSize size = .ok ()
  covered : arrangement.prefill = false → ∀ frame size x y,
    arrangement.frames[frame]? = some size → x < size.width.toNat → y < size.height.toNat →
      ∃ placement ∈ arrangement.placements, placement.frame = frame ∧ placement.rect.contains x y

/-- Outputs in frames of their own are arranged completely. -/
theorem complete_separate (h : ∀ output ∈ outputs, format.checkSize output.template.size = .ok ()) :
    Complete format outputs (separate outputs) where
  places := by
    refine List.forall₂_iff_get.mpr ⟨(List.length_mapIdx ..).symm, fun index hindex _ ↦ ?_⟩
    rw [List.get_eq_getElem, List.get_eq_getElem]
    simp only [separate, List.getElem_mapIdx]
    refine ⟨rfl, ⟨outputs[index].template.size, ?_, ?_⟩, fun _ ↦ ⟨rfl, rfl⟩⟩
    · simp [hindex]
    · simp [PixelRect.fits, PixelRect.ofCanvas]
  frames := by
    intro size hsize
    obtain ⟨output, houtput, rfl⟩ := List.mem_map.mp hsize
    exact h output houtput
  covered := by
    intro _ frame size x y hframe hx hy
    simp only [separate, List.getElem?_map, Option.map_eq_some_iff] at hframe
    obtain ⟨output, houtput, rfl⟩ := hframe
    refine ⟨⟨frame, .ofCanvas output.template.size⟩, ?_, rfl, ?_⟩
    · refine List.mem_of_getElem? (i := frame) ?_
      simp [separate, houtput]
    · simp [PixelRect.contains, PixelRect.ofCanvas, hx, hy]

/-- Outputs on one canvas are arranged completely. -/
theorem complete_merged (h : merged format canvas outputs = .ok arrangement) :
    Complete format outputs arrangement := by
  unfold merged at h
  simp only [Failing.bind_eq_ok_iff] at h
  obtain ⟨_, hcanvas, placements, hplacements, harrangement⟩ := h
  cases harrangement
  have hplaces := place_from_eq_ok_iff.mp hplacements
  refine ⟨hplaces.imp fun _ _ ↦ And.right, ?_, ?_⟩
  · rintro size hsize
    rw [List.mem_singleton.mp hsize]
    exact hcanvas
  · intro hprefill frame size x y hframe hx hy
    rw [Bool.not_eq_false', Bool.and_eq_true, decide_eq_true_eq, Bool.not_eq_true',
      ← List.sum_eq_foldl_nat] at hprefill
    have hplacement (placement : Placement) (hmem : placement ∈ placements) :
        placement.frame = 0 ∧ placement.rect.fits canvas := by
      obtain ⟨index, hindex⟩ := List.getElem?_of_mem hmem
      obtain ⟨output, _, rfl, hsuits⟩ := Failing.exists_of_forall₂ hplaces.flip hindex
      obtain ⟨size, hsize, hfits⟩ := hsuits.fits
      cases hsize
      exact ⟨rfl, hfits⟩
    -- There is one frame only, so that every place is in the frame of the pixel.
    have hzero : frame = 0 := by
      have := (List.getElem?_eq_some_iff.mp hframe).1
      simpa using this
    cases hzero
    cases hframe
    have hfits (rect : PixelRect) (hrect : rect ∈ placements.map Placement.rect) :
        rect.fits canvas := by
      obtain ⟨placement, hmem, rfl⟩ := List.mem_map.mp hrect
      exact (hplacement placement hmem).2
    obtain ⟨rect, hrect, hcontains⟩ := exists_of_tiling hfits hprefill.2 hprefill.1 hx hy
    obtain ⟨placement, hmem, rfl⟩ := List.mem_map.mp hrect
    exact ⟨placement, hmem, (hplacement placement hmem).1, hcontains⟩

/-- Every output is where its layout places it. -/
theorem placement_of_make {layout : OutputLayout} (h : make format outputs layout = .ok arrangement)
    {position : Nat} {output : OutputSpec} (houtput : outputs[position]? = some output) :
    arrangement.placements[position]? = some (layout.placement position output) := by
  cases layout with
  | separate =>
      cases h
      rw [separate, List.getElem?_mapIdx, houtput]
      rfl
  | merged canvas =>
      obtain ⟨_, _, hplaced⟩ := Failing.bind_eq_ok_iff.mp h
      obtain ⟨placements, hplacements, harrangement⟩ := Failing.bind_eq_ok_iff.mp hplaced
      cases harrangement
      obtain ⟨_, hplacement, rfl, _⟩ :=
        Failing.exists_of_forall₂ (place_from_eq_ok_iff.mp hplacements) houtput
      exact hplacement

end Arrangement

namespace Compositor

variable {format : PixelFormat} {crop : Option Crop} {outputs : List OutputSpec}
  {layout : OutputLayout} {options : CompositeOptions} {compositor : Compositor}

/-- Outputs pass the check if all are for the same sources and of sizes that the format accepts. -/
theorem check_outputs_eq_ok_iff {inputs : List Canvas} {index : Nat} :
    checkOutputs format inputs index outputs = .ok () ↔ ∀ output ∈ outputs,
      output.template.inputs = inputs ∧ format.checkSize output.template.size = .ok () := by
  induction outputs generalizing index with
  | nil => simp [checkOutputs]
  | cons output outputs ih =>
      unfold checkOutputs
      rw [Failing.guard_eq_ok_iff, not_not, Failing.bind_eq_ok_iff, Unique.exists_iff, ih,
        List.forall_mem_cons, and_assoc]

/-- A compositor has completely arranged outputs for the same sources, and sizes that its format
accepts. -/
structure Valid (compositor : Compositor) : Prop where
  arranged : Arrangement.Complete compositor.format compositor.outputs compositor.arrangement
  outputs : ∀ output ∈ compositor.outputs, output.template.inputs = compositor.inputs ∧
    compositor.format.checkSize output.template.size = .ok ()
  inputs : ∀ size ∈ compositor.inputs, compositor.format.checkSize size = .ok ()

/-- A compositor is made of outputs for the same sources that can be arranged, if there are some, if
the format accepts all sizes, and if there are workers. -/
theorem make_eq_ok_iff : make format crop outputs layout options = .ok compositor ↔
    outputs ≠ [] ∧ options.threads ≠ some 0 ∧ ∃ inputs arrangement,
      (∀ output ∈ outputs, output.template.inputs = inputs ∧
        format.checkSize output.template.size = .ok ()) ∧
      (∀ size ∈ inputs, format.checkSize size = .ok ()) ∧
        Arrangement.make format outputs layout = .ok arrangement ∧
          compositor = { format, crop, options, outputs, inputs, arrangement } := by
  cases outputs with
  | nil => exact iff_of_false nofun fun h ↦ h.1 rfl
  | cons first rest =>
      unfold make
      simp only [pure_bind, Failing.bind_eq_ok_iff]
      constructor
      · rintro ⟨_, houtputs, _, hinputs, arrangement, harrangement, hresult⟩
        obtain ⟨hworkers, hresult⟩ := Failing.guard_eq_ok_iff.mp hresult
        cases hresult
        exact ⟨nofun, hworkers, _, arrangement, check_outputs_eq_ok_iff.mp houtputs,
          Failing.for_eq_ok_iff.mp hinputs, harrangement, rfl⟩
      · rintro ⟨_, hworkers, inputs, arrangement, houtputs, hinputs, harrangement, rfl⟩
        obtain rfl := (houtputs first List.mem_cons_self).1
        exact ⟨(), check_outputs_eq_ok_iff.mpr houtputs, (), Failing.for_eq_ok_iff.mpr hinputs,
          arrangement, harrangement, Failing.guard_eq_ok_iff.mpr ⟨hworkers, rfl⟩⟩

/-- Every compositor that is made is valid. -/
theorem valid_of_make (h : make format crop outputs layout options = .ok compositor) :
    compositor.Valid := by
  obtain ⟨_, _, inputs, arrangement, houtputs, hinputs, harrangement, rfl⟩ := make_eq_ok_iff.mp h
  refine ⟨?_, houtputs, hinputs⟩
  cases layout with
  | separate =>
      cases harrangement
      exact Arrangement.complete_separate fun output houtput ↦ (houtputs output houtput).2
  | merged canvas => exact Arrangement.complete_merged harrangement

/-- A compositor works as it was told to, and its outputs are where the layout places them. -/
structure IsMadeOf (compositor : Compositor) (format : PixelFormat) (crop : Option Crop)
    (outputs : List OutputSpec) (layout : OutputLayout) (options : CompositeOptions) : Prop where
  same_format : compositor.format = format
  same_crop : compositor.crop = crop
  same_outputs : compositor.outputs = outputs
  same_options : compositor.options = options
  placed : ∀ (position : Nat) (output : OutputSpec), outputs[position]? = some output →
    compositor.arrangement.placements[position]? = some (layout.placement position output)

/-- Every compositor is made of what it was told. -/
theorem made_of_make (h : make format crop outputs layout options = .ok compositor) :
    compositor.IsMadeOf format crop outputs layout options := by
  obtain ⟨_, _, inputs, arrangement, _, _, harrangement, rfl⟩ := make_eq_ok_iff.mp h
  exact ⟨rfl, rfl, rfl, rfl, fun _ _ houtput ↦
    Arrangement.placement_of_make harrangement houtput⟩

end Compositor

end Panorama
