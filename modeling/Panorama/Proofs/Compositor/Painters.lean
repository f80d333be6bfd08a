import Panorama.Proofs.Compositor.Painting

/-!
# Painting outputs into frames

A painter is an output with its gains and its rectangle. In every plane it fills an area: its
rectangle, or half of it in a chroma plane. A frame that a painter was run on shows the painter's
bytes there and what it showed before elsewhere (`Compositor.shows_paint_output`).
-/

namespace Panorama

/-- An output with its gains and the rectangle that it fills. -/
abbrev Painter := OutputSpec × List Float32 × PixelRect

/-- The rectangle that a painter fills in a plane. -/
def PixelRect.area (rect : PixelRect) (index : Nat) : Area :=
  if index = 0 then ⟨rect.x.toNat, rect.y.toNat, rect.width.toNat, rect.height.toNat⟩
  else ⟨rect.x.toNat / 2, rect.y.toNat / 2, rect.width.toNat / 2, rect.height.toNat / 2⟩

/-- A painter fills this pixel of this plane. -/
def Painter.Covers (painter : Painter) (index x y : Nat) : Prop :=
  (painter.2.2.area index).Contains x y

instance (painter : Painter) (index x y : Nat) : Decidable (painter.Covers index x y) :=
  inferInstanceAs (Decidable (Area.Contains _ x y))

namespace PixelFormat

variable {format : PixelFormat} {size : Canvas} {index : Nat}

/-- Only formats with chroma planes have more than one plane, and these have one channel. -/
theorem chroma_of_plane (h : index < format.planeCount) (hindex : index ≠ 0) :
    format.isChromaSubsampled ∧ format.channels = 1 ∧ (format.subsampling index).toNat = 2 := by
  have hchroma : format.isChromaSubsampled ∧ format.channels = 1 := by
    cases format with
    | gray8 => exact absurd (Nat.lt_one_iff.mp h) hindex
    | rgb24 => exact absurd (Nat.lt_one_iff.mp h) hindex
    | yuv420p => exact ⟨rfl, rfl⟩
    | yuvj420p => exact ⟨rfl, rfl⟩
  refine ⟨hchroma.1, hchroma.2, ?_⟩
  rw [subsampling_to_nat, if_pos ⟨Nat.pos_of_ne_zero hindex, hchroma.1⟩]

/-- A rectangle inside a frame fills an area inside each of its planes. -/
theorem area_fits {rect : PixelRect} (h : rect.fits size) (hindex : index < format.planeCount) :
    (rect.area index).Fits (format.planeSize index size) := by
  obtain ⟨hwidth, hheight⟩ := format.plane_size_to_nat index size
  simp only [PixelRect.fits, Bool.and_eq_true, decide_eq_true_eq] at h
  unfold Area.Fits PixelRect.area
  rw [hwidth, hheight]
  by_cases hzero : index = 0
  · rw [if_pos hzero, subsampling_to_nat, if_neg (by omega), Nat.div_one, Nat.div_one]
    exact h
  · rw [if_neg hzero, (chroma_of_plane hindex hzero).2.2]
    dsimp only
    omega

end PixelFormat

/-! ### Rows that can be painted -/

/-- A well-formed plane that is not empty has at least the rows of its height. -/
theorem Plane.WellFormed.height_le_row_count {plane : Plane} {channels : Nat}
    (h : plane.WellFormed channels) (hrow : 0 < plane.rowBytes channels) :
    plane.height.toNat ≤ plane.rowCount := by
  have hstride := h.1
  have hbytes := h.2.1
  rw [rowCount, Nat.le_div_iff_mul_le (by omega)]
  rcases Nat.eq_zero_or_pos plane.height.toNat with hzero | hpositive
  · rw [hzero]
    omega
  · have hsplit : plane.height.toNat * plane.stride.toNat
        = plane.stride.toNat * (plane.height.toNat - 1) + plane.stride.toNat := by
      rw [← Nat.mul_succ, Nat.succ_eq_add_one, Nat.sub_add_cancel hpositive, Nat.mul_comm]
    omega

/-- The smallest of several numbers is not below a bound of all of them. -/
theorem le_foldl_min {α : Type} {bound first : Nat} {items : List α} {count : α → Nat}
    (hfirst : bound ≤ first) (h : ∀ item ∈ items, bound ≤ count item) :
    bound ≤ items.foldl (fun least item ↦ min least (count item)) first := by
  induction items generalizing first with
  | nil => exact hfirst
  | cons item items ih =>
      exact ih (Nat.le_min.mpr ⟨hfirst, h item List.mem_cons_self⟩) fun other hother ↦
        h other (List.mem_cons_of_mem _ hother)

namespace Frame

variable {frame : Frame} {index : Nat} {plane : Plane}

/-- All rows of a well-formed frame can be painted. -/
theorem WellFormed.height_le_paintable_rows (h : frame.WellFormed)
    (hplane : frame.planes[index]? = some plane) :
    plane.height.toNat ≤ frame.paintableRows index plane := by
  have hrows (other : Nat) (content : Plane) (hcontent : frame.planes[other]? = some content) :
      content.height.toNat ≤ content.rowCount :=
    (h.2.2 other content hcontent).2.height_le_row_count
      (h.row_bytes_pos (List.mem_of_getElem? hcontent))
  -- The rows of both chroma planes count, which is why both heights have to be the same.
  have hheight (other : Nat) (content : Plane) (hcontent : frame.planes[other]? = some content)
      (hother : other ≠ 0) : content.height.toNat = frame.size.height.toNat / 2 := by
    have hcount : other < frame.format.planeCount :=
      h.2.1 ▸ (List.getElem?_eq_some_iff.mp hcontent).1
    rw [show content.height = (frame.format.planeSize other frame.size).height from
      congrArg Canvas.height (h.2.2 other content hcontent).1,
      (frame.format.plane_size_to_nat other frame.size).2,
      (PixelFormat.chroma_of_plane hcount hother).2.2]
  unfold paintableRows
  split
  · exact hrows index plane hplane
  · rename_i hchroma
    refine le_foldl_min (hrows index plane hplane) fun content hcontent ↦ ?_
    obtain ⟨other, hother⟩ := List.getElem?_of_mem hcontent
    rw [List.getElem?_drop] at hother
    rw [hheight index plane hplane hchroma, ← hheight _ content hother (by omega)]
    exact hrows _ content hother

end Frame

/-! ### One painter -/

/-- A well-formed frame of this format and size shows these bytes. -/
structure Frame.Shows (frame : Frame) (format : PixelFormat) (size : Canvas)
    (pixel? : Nat → Nat → Nat → Nat → Option UInt8) : Prop where
  formed : frame.WellFormed
  same_format : frame.format = format
  same_size : frame.size = size
  pixel : ∀ index channel x y, format.HasPixel size index channel x y →
    frame.pixel? index channel x y = pixel? index channel x y

/-- Two frames that show the same bytes look alike. -/
theorem Frame.Shows.looks_like {frame other : Frame} {format : PixelFormat} {size : Canvas}
    {pixel? : Nat → Nat → Nat → Nat → Option UInt8} (h : frame.Shows format size pixel?)
    (hother : other.Shows format size pixel?) : frame.LooksLike other := by
  refine ⟨h.same_format.trans hother.same_format.symm, h.same_size.trans hother.same_size.symm, ?_⟩
  intro index channel x y hpixel
  rw [h.same_format, h.same_size] at hpixel
  rw [h.pixel index channel x y hpixel, hother.pixel index channel x y hpixel]

namespace Compositor

variable {compositor : Compositor} {views : List FrameView} {painter : Painter} {size : Canvas}
  {target painted : Frame} {before? : Nat → Nat → Nat → Nat → Option UInt8}

/-- The byte that a painter gives to a pixel of its area. -/
def color? (compositor : Compositor) (views : List FrameView) (painter : Painter)
    (index channel x y : Nat) : Option UInt8 :=
  let area := painter.2.2.area index
  if index = 0 then
    compositor.primaryByte? painter.1 views painter.2.1 (x - area.left) (y - area.top) channel
  else compositor.chromaByte? painter.1 views index (x - area.left) (y - area.top)

/-- What a painter makes of a pixel. -/
def paintOver? (compositor : Compositor) (views : List FrameView) (painter : Painter)
    (index channel x y : Nat) (before? : Option UInt8) : Option UInt8 :=
  if painter.Covers index x y then compositor.color? views painter index channel x y else before?

/-- A painter has a byte for every pixel that it covers in a frame of this size. -/
def CanPaint (compositor : Compositor) (views : List FrameView) (size : Canvas)
    (painter : Painter) : Prop :=
  ∀ index channel x y, compositor.format.HasPixel size index channel x y →
    painter.Covers index x y → ∃ byte, compositor.color? views painter index channel x y = some byte

/-- Painting a plane of an output is painting its area. -/
theorem paint_plane_eq {index : Nat} (hindex : index < compositor.format.planeCount) (rows : Nat)
    (plane : Plane) :
    compositor.paintPlane? painter.1 views painter.2.1 painter.2.2 rows index plane
      = plane.paintArea? rows compositor.format.channels (painter.2.2.area index)
          fun x y channel ↦
            if index = 0 then compositor.primaryByte? painter.1 views painter.2.1 x y channel
            else compositor.chromaByte? painter.1 views index x y := by
  unfold paintPlane? Plane.paintArea? PixelRect.area
  by_cases hzero : index = 0
  · simp only [if_pos hzero]
  · simp only [if_neg hzero, (PixelFormat.chroma_of_plane hindex hzero).2.1]

/-- The planes of a frame can be painted in the area of a painter. -/
theorem paintable_plane (h : target.Shows compositor.format size before?)
    (hfits : painter.2.2.fits size) {index : Nat} {plane : Plane}
    (hplane : target.planes[index]? = some plane) :
    index < compositor.format.planeCount ∧
      plane.size = compositor.format.planeSize index size ∧
        plane.WellFormed compositor.format.channels ∧ 0 < plane.stride.toNat ∧
          (painter.2.2.area index).Fits plane.size := by
  obtain ⟨hformed, hformat, hsize, _⟩ := h
  obtain ⟨hplaneSize, hplaneFormed⟩ := hformed.2.2 index plane hplane
  have hstride := hformed.stride_pos (List.mem_of_getElem? hplane)
  have hindex := (List.getElem?_eq_some_iff.mp hplane).1
  rw [hformed.2.1, hformat] at hindex
  rw [hformat, hsize] at hplaneSize
  rw [hformat] at hplaneFormed
  exact ⟨hindex, hplaneSize, hplaneFormed, hstride,
    hplaneSize ▸ PixelFormat.area_fits hfits hindex⟩

/-- A painted plane is as large as the plane before and shows the painter's bytes where the painter
covers it. -/
theorem painted_plane (h : target.Shows compositor.format size before?)
    (hfits : painter.2.2.fits size) {planes : List Plane}
    (hplanes : List.Forall₂ (fun item result ↦
      compositor.paintPlane? painter.1 views painter.2.1 painter.2.2
        (target.paintableRows item.2 item.1) item.2 item.1 = some result)
      target.planes.zipIdx planes) {index : Nat} {result : Plane}
    (hresult : planes[index]? = some result) :
    ∃ plane, target.planes[index]? = some plane ∧ result.size = plane.size ∧
      result.WellFormed compositor.format.channels ∧
        ∀ channel x y, channel < compositor.format.channels → x < plane.width.toNat →
          y < plane.height.toNat → result.pixel? compositor.format.channels channel x y =
            compositor.paintOver? views painter index channel x y
              (plane.pixel? compositor.format.channels channel x y) := by
  have hindex := (List.getElem?_eq_some_iff.mp hresult).1
  rw [← hplanes.length_eq, List.length_zipIdx] at hindex
  have hplane := List.getElem?_eq_getElem hindex
  obtain ⟨hcount, hsize, hformed, hstride, harea⟩ := paintable_plane h hfits hplane
  obtain ⟨_, hsame, hpaint⟩ := Failing.exists_of_forall₂ hplanes (Failing.zip_idx_get hplane)
  rw [hresult, Option.some.injEq] at hsame
  rw [← hsame] at hpaint
  dsimp only at hpaint
  rw [paint_plane_eq hcount] at hpaint
  obtain ⟨hresultSize, hresultFormed, hpixels⟩ :=
    hformed.paint hstride harea (h.formed.height_le_paintable_rows hplane) hpaint
  exact ⟨_, hplane, hresultSize, hresultFormed, hpixels⟩

/-- A painted frame shows the painter's bytes where the painter covers it, and what it showed
before elsewhere. -/
theorem shows_paint_output (h : target.Shows compositor.format size before?)
    (hfits : painter.2.2.fits size)
    (hpaint : compositor.paintOutput? painter.1 views painter.2.1 painter.2.2 target
      = some painted) :
    painted.Shows compositor.format size fun index channel x y ↦
      compositor.paintOver? views painter index channel x y (before? index channel x y) := by
  unfold paintOutput? at hpaint
  simp only [Option.bind_eq_bind, Option.bind_eq_some_iff, Option.pure_def, Option.some.injEq,
    Failing.map_eq_some_iff] at hpaint
  obtain ⟨planes, hplanes, rfl⟩ := hpaint
  have hlength : planes.length = target.planes.length := by
    rw [← hplanes.length_eq, List.length_zipIdx]
  refine ⟨⟨h.formed.1, hlength.trans h.formed.2.1, fun index result hresult ↦ ?_⟩,
    h.same_format, h.same_size, fun index channel x y hpixel ↦ ?_⟩
  · obtain ⟨plane, hplane, hsize, hformed, _⟩ := painted_plane h hfits hplanes hresult
    obtain ⟨_, hplaneSize, _⟩ := paintable_plane h hfits hplane
    rw [h.same_format, h.same_size]
    exact ⟨hsize.trans hplaneSize, hformed⟩
  · have hindex : index < planes.length := by
      rw [hlength, h.formed.2.1, h.same_format]
      exact hpixel.plane
    have hresult := List.getElem?_eq_getElem hindex
    obtain ⟨plane, hplane, hsize, hformed, hpixels⟩ := painted_plane h hfits hplanes hresult
    obtain ⟨_, hplaneSize, _⟩ := paintable_plane h hfits hplane
    obtain ⟨hx, hy⟩ := hpixel.inside hplaneSize
    have hbefore := h.pixel index channel x y hpixel
    rw [Frame.pixel_eq hplane, h.same_format] at hbefore
    rw [Frame.pixel_eq hresult, ← hbefore]
    show Plane.pixel? _ target.format.channels channel x y = _
    rw [h.same_format]
    exact hpixels channel x y hpixel.channel hx hy

/-- A painter that has a byte for every pixel can be run. -/
theorem exists_paint_output (h : target.Shows compositor.format size before?)
    (hfits : painter.2.2.fits size) (hcolors : compositor.CanPaint views size painter) :
    ∃ painted, compositor.paintOutput? painter.1 views painter.2.1 painter.2.2 target
      = some painted := by
  have hplane (item : Plane × Nat) (hitem : item ∈ target.planes.zipIdx) :
      ∃ result, compositor.paintPlane? painter.1 views painter.2.1 painter.2.2
        (target.paintableRows item.2 item.1) item.2 item.1 = some result := by
    obtain ⟨plane, index⟩ := item
    have hplane := List.mem_zipIdx_iff_getElem?.mp hitem
    obtain ⟨hcount, hsize, hformed, hstride, harea⟩ := paintable_plane h hfits hplane
    rw [paint_plane_eq hcount]
    refine hformed.exists_paint hstride harea (h.formed.height_le_paintable_rows hplane) ?_
    intro channel x y hchannel hcontains
    refine hcolors index channel x y ⟨hcount, hchannel, ?_, ?_⟩ hcontains
    · rw [← hsize]
      exact hcontains.1.2.trans_le harea.1
    · rw [← hsize]
      exact hcontains.2.2.trans_le harea.2
  obtain ⟨planes, hplanes⟩ := Failing.exists_map_eq_some hplane
  exact ⟨{ target with planes }, by
    unfold paintOutput?
    rw [hplanes]
    rfl⟩

/-- A painter that was run had a byte for every pixel that it covers. -/
theorem can_paint_of_shows {after? : Nat → Nat → Nat → Nat → Option UInt8}
    (h : painted.Shows compositor.format size fun index channel x y ↦
      compositor.paintOver? views painter index channel x y (after? index channel x y)) :
    compositor.CanPaint views size painter := by
  intro index channel x y hpixel hcovers
  have hshown := h.pixel index channel x y hpixel
  have hvisible := hpixel
  rw [← h.same_format, ← h.same_size] at hvisible
  obtain ⟨byte, hbyte⟩ := h.formed.pixel hvisible
  refine ⟨byte, ?_⟩
  rw [← hbyte, hshown, paintOver?, if_pos hcovers]

end Compositor

end Panorama
