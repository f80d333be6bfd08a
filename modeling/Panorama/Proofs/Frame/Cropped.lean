import Panorama.Proofs.Frame.Preview
import Panorama.Proofs.Frame.Source

/-!
# Copies of what a crop leaves

The columns that a crop leaves of a frame can be copied into a frame of their own, without padding.
Seen through no crop, the copy shows what the frame shows through the crop (`ShowsSame`), and what
is sampled from a view depends on what it shows and on nothing else: not on the columns beside the
crop, not on padding, and not on the row behind.
-/

namespace Panorama

/-! ### Copies -/

/-- The columns of a plane from some column on, copied row by row without padding. -/
def Plane.columns (plane : Plane) (channels : Nat) (first width : UInt32) : Plane where
  width := width
  height := plane.height
  stride := .ofNat (width.toNat * channels)
  data := Array.ofFn (n := width.toNat * channels * plane.height.toNat) fun position ↦
    let row := position / (width.toNat * channels)
    let offset := position % (width.toNat * channels)
    plane.data.getD (row * plane.stride.toNat + (first.toNat * channels + offset)) 0

/-- How many columns a crop leaves of a frame of some width. -/
def Crop.columns (crop : Option Crop) (width : UInt32) : UInt32 :=
  match crop with
  | none => width
  | some crop => crop.width

/-- The columns that a crop leaves of every plane of a frame, copied without padding. -/
def Frame.cropped (frame : Frame) (crop : Option Crop) : Frame where
  format := frame.format
  size := ⟨Crop.columns crop frame.size.width, frame.size.height⟩
  planes := frame.planes.mapIdx fun index plane ↦
    plane.columns frame.format.channels (Crop.first crop / frame.format.subsampling index)
      (Crop.columns crop frame.size.width / frame.format.subsampling index)

namespace Plane.WellFormed

variable {plane : Plane} {channels : Nat} {first width : UInt32}

/-- Copied columns are a well-formed plane without padding. -/
theorem columns (h : plane.WellFormed channels) (hheight : 0 < plane.height.toNat)
    (hinside : first.toNat + width.toNat ≤ plane.width.toNat) :
    (plane.columns channels first width).WellFormed channels ∧
      (plane.columns channels first width).IsTight channels := by
  have hrow : width.toNat * channels ≤ plane.stride.toNat := by
    refine le_trans (Nat.mul_le_mul_right channels ?_) h.1
    omega
  have hstride : (plane.columns channels first width).stride.toNat = width.toNat * channels :=
    UInt64.toNat_ofNat_of_lt' (hrow.trans_lt plane.stride.toNat_lt)
  have hbytes : (plane.columns channels first width).data.size
      = width.toNat * channels * plane.height.toNat := Array.size_ofFn
  have hrows : width.toNat * channels * plane.height.toNat
      = width.toNat * channels * (plane.height.toNat - 1) + width.toNat * channels := by
    rw [← Nat.mul_succ, Nat.succ_eq_add_one, Nat.sub_add_cancel hheight]
  have hsmaller : width.toNat * channels * plane.height.toNat ≤ plane.data.size := by
    have hlast := h.2.1
    have hcolumns : width.toNat * channels ≤ plane.rowBytes channels :=
      Nat.mul_le_mul_right channels (by omega)
    have habove := Nat.mul_le_mul_right (plane.height.toNat - 1) hrow
    omega
  refine ⟨⟨hstride.ge, ?_, ?_⟩, hstride, hbytes⟩
  · rw [hstride, hbytes]
    exact hrows.ge
  · rw [hbytes]
    exact hsmaller.trans_lt h.2.2

/-- Copied columns show what the plane shows there. -/
theorem columns_pixel (h : plane.WellFormed channels)
    (hinside : first.toNat + width.toNat ≤ plane.width.toNat) {channel x y : Nat}
    (hx : x < width.toNat) (hy : y < plane.height.toNat) (hchannel : channel < channels) :
    (plane.columns channels first width).pixel? channels channel x y
      = plane.pixel? channels channel (first.toNat + x) y := by
  obtain ⟨hformed, hstride, _⟩ := h.columns (Nat.zero_lt_of_lt hy) hinside
  have hoffset : x * channels + channel < width.toNat * channels :=
    (plane.columns channels first width).offset_lt hx hchannel
  obtain ⟨byte, hbyte⟩ := h.pixel (show first.toNat + x < plane.width.toNat by omega) hy hchannel
  have hposition : y * (width.toNat * channels) + (x * channels + channel)
      < width.toNat * channels * plane.height.toNat := by
    calc y * (width.toNat * channels) + (x * channels + channel)
        < y * (width.toNat * channels) + width.toNat * channels := Nat.add_lt_add_left hoffset _
      _ = (y + 1) * (width.toNat * channels) := (Nat.succ_mul ..).symm
      _ ≤ plane.height.toNat * (width.toNat * channels) := Nat.mul_le_mul_right _ hy
      _ = width.toNat * channels * plane.height.toNat := Nat.mul_comm ..
  have hrow : (y * (width.toNat * channels) + (x * channels + channel)) / (width.toNat * channels)
      = y := by
    rw [Nat.mul_comm y, Nat.mul_add_div (by omega), Nat.div_eq_of_lt hoffset, Nat.add_zero]
  have hcolumn : (y * (width.toNat * channels) + (x * channels + channel))
      % (width.toNat * channels) = x * channels + channel := by
    rw [Nat.mul_comm y, Nat.mul_add_mod, Nat.mod_eq_of_lt hoffset]
  rw [hformed.pixel_eq hx hy hchannel, hstride, hbyte]
  rw [h.pixel_eq (by omega) hy hchannel, Nat.add_mul, Nat.add_assoc] at hbyte
  show (Array.ofFn _)[y * (width.toNat * channels) + (x * channels + channel)]? = some byte
  rw [Array.getElem?_ofFn, dif_pos hposition, hrow, hcolumn, Array.getD_eq_getD_getElem?, hbyte,
    Option.getD_some]

end Plane.WellFormed

namespace Frame

variable {frame : Frame} {crop : Option Crop} {first width : UInt32}

/-- A crop leaves at least one column of a frame of an accepted size, as many as it says. -/
theorem visible_columns_pos (hsize : frame.format.checkSize frame.size = .ok ())
    (h : frame.visibleColumns crop = .ok (first, width)) :
    width = Crop.columns crop frame.size.width ∧ 0 < width.toNat := by
  cases crop with
  | none =>
      cases h
      exact ⟨rfl, (PixelFormat.check_size_eq_ok_iff.mp hsize).1.1⟩
  | some crop =>
      unfold visibleColumns at h
      dsimp only at h
      split at h
      · cases h
      · rename_i hinside
        split at h
        · cases h
        · cases h
          rw [Bool.or_eq_true, not_or, beq_iff_eq, ← UInt32.toNat_inj] at hinside
          exact ⟨rfl, Nat.pos_of_ne_zero hinside.1⟩

/-- Columns of a frame are columns of each of its planes. -/
theorem plane_columns_le (hinside : first.toNat + width.toNat ≤ frame.size.width.toNat)
    (index : Nat) : (first / frame.format.subsampling index).toNat
      + (width / frame.format.subsampling index).toNat
        ≤ (frame.format.planeSize index frame.size).width.toNat := by
  rw [(frame.format.plane_size_to_nat index frame.size).1, UInt32.toNat_div, UInt32.toNat_div]
  rcases frame.format.subsampling_cases index with hscale | hscale <;> rw [hscale] <;> omega

/-- The planes of a copy are copies of the frame's planes. -/
theorem cropped_plane {index : Nat} {copy : Plane}
    (h : (frame.cropped crop).planes[index]? = some copy) :
    ∃ plane, frame.planes[index]? = some plane ∧ copy = plane.columns frame.format.channels
      (Crop.first crop / frame.format.subsampling index)
      (Crop.columns crop frame.size.width / frame.format.subsampling index) := by
  rw [cropped, List.getElem?_mapIdx, Option.map_eq_some_iff] at h
  obtain ⟨plane, hplane, hcopy⟩ := h
  exact ⟨plane, hplane, hcopy.symm⟩

/-- A copy of what a crop leaves of a frame: a well-formed frame without padding, which shows the
columns of the crop. -/
structure CopiedAs (frame : Frame) (crop : Option Crop) (copy : Frame) : Prop where
  format : copy.format = frame.format
  size : copy.size = ⟨Crop.columns crop frame.size.width, frame.size.height⟩
  formed : copy.WellFormed
  tight : ∀ plane ∈ copy.planes, plane.IsTight copy.format.channels
  pixel : ∀ index channel x y, copy.format.HasPixel copy.size index channel x y →
    copy.pixel? index channel x y = frame.pixel? index channel
      ((Crop.first crop / copy.format.subsampling index).toNat + x) y

namespace WellFormed

/-- The copy of what a crop leaves is a well-formed frame without padding. -/
theorem cropped (h : frame.WellFormed) (hcolumns : frame.visibleColumns crop = .ok (first, width)) :
    (frame.cropped crop).WellFormed ∧
      ∀ plane ∈ (frame.cropped crop).planes, plane.IsTight frame.format.channels := by
  obtain ⟨hfirst, hinside, heven⟩ := visible_columns_ok h.1 hcolumns
  obtain ⟨hwidth, hpositive⟩ := visible_columns_pos h.1 hcolumns
  obtain ⟨⟨_, hheight⟩, hevenSides⟩ := PixelFormat.check_size_eq_ok_iff.mp h.1
  have hcopies (index : Nat) (copy : Plane)
      (hcopy : (frame.cropped crop).planes[index]? = some copy) :
      copy.size = frame.format.planeSize index (frame.cropped crop).size ∧
        copy.WellFormed frame.format.channels ∧ copy.IsTight frame.format.channels := by
    obtain ⟨plane, hplane, rfl⟩ := cropped_plane hcopy
    obtain ⟨hsize, hformed⟩ := h.2.2 index plane hplane
    have hrows := (PixelFormat.plane_size_pos h.1 index).2
    have hcolumnsInside := plane_columns_le hinside index
    rw [← hsize] at hrows hcolumnsInside
    rw [← hfirst, ← hwidth]
    refine ⟨?_, hformed.columns hrows hcolumnsInside⟩
    show (⟨_, plane.height⟩ : Canvas) = ⟨Crop.columns crop frame.size.width / _, _⟩
    rw [← hwidth, show plane.height = _ from congrArg Canvas.height hsize]
    rfl
  refine ⟨⟨?_, ?_, fun index copy hcopy ↦ ?_⟩, fun copy hcopy ↦ ?_⟩
  · refine PixelFormat.check_size_eq_ok_iff.mpr ⟨⟨?_, hheight⟩, fun hchroma ↦ ?_⟩
    · show 0 < (Crop.columns crop frame.size.width).toNat
      rwa [← hwidth]
    · refine ⟨?_, (hevenSides hchroma).2⟩
      show (Crop.columns crop frame.size.width).toNat % 2 = 0
      rw [← hwidth]
      exact (heven hchroma).2
  · exact (List.length_mapIdx ..).trans h.2.1
  · obtain ⟨hsize, hformed, _⟩ := hcopies index copy hcopy
    exact ⟨hsize, hformed⟩
  · obtain ⟨index, hindex⟩ := List.getElem?_of_mem hcopy
    exact (hcopies index copy hindex).2.2

/-- The copy shows what the frame shows from the first column of the crop on. -/
theorem cropped_pixel (h : frame.WellFormed)
    (hcolumns : frame.visibleColumns crop = .ok (first, width)) {index channel x y : Nat}
    (hpixel : frame.format.HasPixel (frame.cropped crop).size index channel x y) :
    (frame.cropped crop).pixel? index channel x y
      = frame.pixel? index channel ((first / frame.format.subsampling index).toNat + x) y := by
  obtain ⟨hfirst, hinside, _⟩ := visible_columns_ok h.1 hcolumns
  obtain ⟨hwidth, _⟩ := visible_columns_pos h.1 hcolumns
  obtain ⟨plane, hplane, hsize, hformed⟩ := h.exists_plane hpixel.plane
  have hcopy : (frame.cropped crop).planes[index]? = some (plane.columns frame.format.channels
      (Crop.first crop / frame.format.subsampling index)
      (Crop.columns crop frame.size.width / frame.format.subsampling index)) := by
    rw [Frame.cropped, List.getElem?_mapIdx, hplane]
    rfl
  have hcolumnsInside := plane_columns_le hinside index
  have hrow : y < plane.height.toNat := by
    rw [show plane.height = _ from congrArg Canvas.height hsize]
    exact hpixel.row
  rw [← hsize] at hcolumnsInside
  rw [pixel_eq hcopy, pixel_eq hplane, ← hfirst, ← hwidth]
  refine hformed.columns_pixel hcolumnsInside ?_ hrow hpixel.channel
  rw [hwidth]
  exact hpixel.column

/-- The columns that a crop leaves are copied. -/
theorem copied (h : frame.WellFormed) (hcolumns : frame.visibleColumns crop = .ok (first, width)) :
    frame.CopiedAs crop (frame.cropped crop) := by
  obtain ⟨hformed, htight⟩ := h.cropped hcolumns
  obtain ⟨rfl, _⟩ := visible_columns_ok h.1 hcolumns
  exact ⟨rfl, rfl, hformed, htight, fun index channel x y ↦ h.cropped_pixel hcolumns⟩

end WellFormed

end Frame

/-! ### Views that show the same -/

/-- Two views of a plane have the same size and the same bytes for every pixel. -/
structure PlaneView.ShowsSame (channels : Nat) (view other : PlaneView) : Prop where
  width : view.width = other.width
  height : view.height = other.height
  pixel : ∀ x y channel, x < view.width.toNat → y < view.height.toNat → channel < channels →
    view.pixel? x y channel = other.pixel? x y channel

/-- Two views of frames of one format show the same in every plane. -/
structure FrameView.ShowsSame (format : PixelFormat) (view other : FrameView) : Prop where
  viewFormat : view.format = format
  otherFormat : other.format = format
  size : view.size = other.size
  planes : List.Forall₂ (PlaneView.ShowsSame format.channels) view.planes other.planes

namespace Frame

variable {frame : Frame} {crop : Option Crop} {view : FrameView}

/-- A view of a well-formed frame has its format, the size that the crop leaves, and a plane for
every plane of the frame. -/
theorem view_parts (h : frame.view crop = .ok view) :
    ∃ first width, frame.visibleColumns crop = .ok (first, width) ∧ view.format = frame.format ∧
      view.size = ⟨width, frame.size.height⟩ ∧ view.planes.length = frame.planes.length := by
  unfold Frame.view at h
  simp only [Failing.bind_eq_ok_iff, Failing.of_result_eq_ok_iff, Failing.of_option_eq_ok_iff,
    Failing.map_eq_some_iff] at h
  obtain ⟨⟨first, width⟩, hcolumns, planes, hplanes, hresult⟩ := h
  cases hresult
  refine ⟨first, width, hcolumns, rfl, rfl, ?_⟩
  rw [← hplanes.length_eq, List.length_zipIdx]

/-- What a crop leaves of a well-formed frame is shown by its copy without a crop. -/
theorem WellFormed.view_cropped (h : frame.WellFormed) (hview : frame.view crop = .ok view) :
    ∃ other, (frame.cropped crop).view none = .ok other ∧
      view.ShowsSame frame.format other := by
  obtain ⟨first, width, hcolumns, hformat, hsize, hcount⟩ := view_parts hview
  obtain ⟨hformed, _⟩ := h.cropped hcolumns
  obtain ⟨hfirst, _⟩ := visible_columns_ok h.1 hcolumns
  obtain ⟨hwidth, _⟩ := visible_columns_pos h.1 hcolumns
  obtain ⟨other, hother⟩ : ∃ other, (frame.cropped crop).view none = .ok other :=
    hformed.exists_view rfl
  obtain ⟨_, _, hall, hotherFormat, hotherSize, hotherCount⟩ := view_parts hother
  cases hall
  have hcopySize : (frame.cropped crop).size = view.size := by
    rw [hsize, hwidth]
    rfl
  have hsame : view.size = other.size := by
    rw [hotherSize, ← hcopySize]
  have hshows := h.shows_view hview
  have hcopyShows := hformed.shows_view hother
  have hcounts : view.planes.length = other.planes.length := by
    rw [hcount, hotherCount]
    exact (List.length_mapIdx ..).symm
  refine ⟨other, hother, hformat, hotherFormat, hsame,
    List.forall₂_iff_get.mpr ⟨hcounts, fun index hindex hotherIndex ↦ ?_⟩⟩
  have hplanes : index < frame.format.planeCount := by
    rw [← h.2.1, ← hcount]
    exact hindex
  obtain ⟨plane, hplane, hplaneWidth, hplaneHeight, hpixels⟩ := hshows.plane index hplanes
  obtain ⟨copy, hcopy, hcopyWidth, hcopyHeight, hcopyPixels⟩ := hcopyShows.plane index hplanes
  obtain ⟨_, rfl⟩ := List.getElem?_eq_some_iff.mp hplane
  obtain ⟨_, rfl⟩ := List.getElem?_eq_some_iff.mp hcopy
  rw [← hsame] at hcopyWidth hcopyHeight
  have hwidths := hplaneWidth.trans hcopyWidth.symm
  have hheights := hplaneHeight.trans hcopyHeight.symm
  refine ⟨hwidths, hheights, fun x y channel hx hy hchannel ↦ ?_⟩
  dsimp only [List.get_eq_getElem] at hx hy ⊢
  have hpixel : frame.format.HasPixel (frame.cropped crop).size index channel x y := by
    rw [hcopySize]
    exact ⟨hplanes, hchannel, hplaneWidth ▸ hx, hplaneHeight ▸ hy⟩
  rw [(hpixels x y channel hx hy hchannel).1,
    (hcopyPixels x y channel (hwidths ▸ hx) (hheights ▸ hy) hchannel).1, ← hfirst,
    ← h.cropped_pixel hcolumns hpixel]
  -- Without a crop the columns are counted from the first one on.
  have hzero : (Crop.first none / frame.format.subsampling index).toNat = 0 :=
    (UInt32.toNat_div ..).trans (Nat.zero_div _)
  show _ = (frame.cropped crop).pixel? index channel
    ((Crop.first none / frame.format.subsampling index).toNat + x) y
  rw [hzero, Nat.zero_add]

end Frame

/-! ### What is sampled -/

/-- The pixels of an axis that coordinates mean are pixels of it. -/
theorem EdgeMode.pixel_lt {mode : EdgeMode} {length : UInt32} {position : Int} {index : Nat}
    (h : mode.resolve? length position = some (.pixel index)) : index < length.toNat := by
  by_cases hlength : 0 < length.toNat
  · obtain ⟨place, hplace, hinside⟩ := mode.exists_resolve hlength position
    rw [h, Option.some.injEq] at hplace
    exact hinside index hplace.symm
  · -- An axis without pixels has only places outside, or none at all.
    have hnone : ¬(0 ≤ position ∧ position < length.toNat) := by omega
    unfold resolve? at h
    rw [if_neg hnone] at h
    cases mode with
    | fill => cases h
    | wrap =>
        dsimp only at h
        rw [if_pos (by omega)] at h
        cases h

namespace PlaneView.ShowsSame

variable {α : Type} [Arithmetic α] {channels channel : Nat} {view other : PlaneView}

/-- Whole coordinates have the same value. -/
theorem neighbor (h : view.ShowsSame channels other) (hchannel : channel < channels)
    (edge : EdgePolicy) (fill : UInt8) (x y : Int) :
    (view.neighbor? channel edge fill x y : Option α) = other.neighbor? channel edge fill x y := by
  unfold neighbor?
  rw [← h.width, ← h.height]
  cases hcolumn : edge.x.resolve? view.width x with
  | none => rfl
  | some column =>
      cases hrow : edge.y.resolve? view.height y with
      | none => rfl
      | some row =>
          cases column with
          | outside => rfl
          | pixel column =>
              cases row with
              | outside => rfl
              | pixel row =>
                  simp only [Option.bind_eq_bind, Option.bind_some]
                  rw [h.pixel column row channel (EdgeMode.pixel_lt hcolumn)
                    (EdgeMode.pixel_lt hrow) hchannel]

/-- Every point has the same value, for every filter and every edge policy. -/
theorem sample (h : view.ShowsSame channels other) (hchannel : channel < channels)
    (interpolation : Interpolation) (edge : EdgePolicy) (fill : UInt8) (x y : α) :
    view.sample? channel interpolation edge fill x y
      = other.sample? channel interpolation edge fill x y := by
  have hneighbor : (view.neighbor? channel edge fill : Int → Int → Option α)
      = other.neighbor? channel edge fill :=
    funext₂ fun x y ↦ h.neighbor hchannel edge fill x y
  unfold sample?
  rw [h.width, h.height, hneighbor]

end PlaneView.ShowsSame

/-- Every point has the same brightness. -/
theorem FrameView.ShowsSame.brightness {format : PixelFormat} {view other : FrameView}
    (h : view.ShowsSame format other) (interpolation : Interpolation) (edge : EdgePolicy)
    (x y : Float32) :
    view.brightness? interpolation edge x y = other.brightness? interpolation edge x y := by
  unfold brightness?
  refine Failing.position_congr h.planes fun plane otherPlane hplane ↦ ?_
  have hsample (channel : Nat) (hchannel : channel < format.channels) :
      plane.sample? channel interpolation edge 0 x y
        = otherPlane.sample? channel interpolation edge 0 x y :=
    hplane.sample hchannel interpolation edge 0 x y
  rw [h.viewFormat, h.otherFormat]
  cases format with
  | rgb24 =>
      have hchannels : List.Forall₂ (fun channel other ↦ channel = other ∧ channel < 3)
          (List.range 3) (List.range 3) :=
        List.forall₂_same.mpr fun channel hchannel ↦ ⟨rfl, List.mem_range.mp hchannel⟩
      refine congrArg (· >>= _) (Failing.map_congr hchannels ?_)
      rintro channel _ ⟨rfl, hchannel⟩
      exact hsample channel hchannel
  | _ => exact hsample 0 (by decide)

end Panorama
