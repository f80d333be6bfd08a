import Panorama.Proofs.Frame.Fresh
import Panorama.Sampling

/-!
# Sampling views of well-formed frames

A view of a well-formed frame shows the frame's pixels from the first column of the crop on. Every
point of it has a value, for every filter and every edge policy.
-/

namespace Panorama

/-! ### Views -/

/-- The first column that a crop leaves. -/
def Crop.first : Option Crop → UInt32
  | none => 0
  | some crop => crop.x

/-- The pixels of a view are those of a frame from some column on, and each of them has a byte. -/
structure FrameView.ShowsFrom (view : FrameView) (frame : Frame) (first : UInt32) : Prop where
  format : view.format = frame.format
  plane : ∀ index, index < frame.format.planeCount → ∃ plane, view.planes[index]? = some plane ∧
    plane.width = (frame.format.planeSize index view.size).width ∧
      plane.height = (frame.format.planeSize index view.size).height ∧
        ∀ x y channel, x < plane.width.toNat → y < plane.height.toNat →
          channel < frame.format.channels →
            plane.pixel? x y channel = frame.pixel? index channel
                ((first / frame.format.subsampling index).toNat + x) y ∧
              ∃ byte, plane.pixel? x y channel = some byte

namespace Frame

variable {frame : Frame} {crop : Option Crop} {first width : UInt32}

/-- A crop of a frame of an accepted size leaves columns inside the frame and cuts through no
chroma pixel. -/
theorem visible_columns_ok (hsize : frame.format.checkSize frame.size = .ok ())
    (h : frame.visibleColumns crop = .ok (first, width)) :
    first = Crop.first crop ∧ first.toNat + width.toNat ≤ frame.size.width.toNat ∧
      (frame.format.isChromaSubsampled → first.toNat % 2 = 0 ∧ width.toNat % 2 = 0) := by
  cases crop with
  | none =>
      cases h
      exact ⟨rfl, (Nat.zero_add _).le, fun hchroma ↦
        ⟨rfl, ((PixelFormat.check_size_eq_ok_iff.mp hsize).2 hchroma).1⟩⟩
  | some crop =>
      unfold visibleColumns at h
      dsimp only at h
      split at h
      · cases h
      · rename_i hinside
        split at h
        · cases h
        · rename_i hodd
          cases h
          simp only [Bool.or_eq_true, not_or, decide_eq_true_eq, not_lt] at hinside
          refine ⟨rfl, hinside.2, fun hchroma ↦ ?_⟩
          rw [hchroma, Bool.true_and, Bool.not_eq_true, Bool.or_eq_false_iff, even_iff, even_iff]
            at hodd
          exact hodd

/-- A well-formed frame has a view behind every crop that leaves columns of it. -/
theorem WellFormed.exists_view (h : frame.WellFormed)
    (hcolumns : frame.visibleColumns crop = .ok (first, width)) :
    ∃ view, frame.view crop = .ok view := by
  have hinside := (visible_columns_ok h.1 hcolumns).2.1
  have hplane (item : Plane × Nat) (hitem : item ∈ frame.planes.zipIdx) :
      ∃ view, viewPlane? frame.format first width item.2 item.1 = some view := by
    obtain ⟨hsize, hformed⟩ := h.2.2 item.2 item.1 (List.mem_zipIdx_iff_getElem?.mp hitem)
    have hrow := hformed.row_end_le (y := 0) (by
      have hheight := (PixelFormat.plane_size_pos h.1 item.2).2
      rwa [← hsize] at hheight)
    -- The crop starts inside the first row.
    have hcolumn : (first / frame.format.subsampling item.2).toNat ≤ item.1.width.toNat := by
      rw [show item.1.width = (frame.format.planeSize item.2 frame.size).width from
        congrArg Canvas.width hsize, (frame.format.plane_size_to_nat item.2 frame.size).1,
        UInt32.toNat_div]
      exact Nat.div_le_div_right (by omega)
    have hstart := Nat.mul_le_mul_right frame.format.channels hcolumn
    rw [Nat.zero_mul, Nat.zero_add] at hrow
    unfold viewPlane?
    dsimp only
    rw [if_pos (hstart.trans hrow)]
    exact ⟨_, rfl⟩
  obtain ⟨planes, hplanes⟩ := Failing.exists_map_eq_some hplane
  unfold Frame.view
  simp only [Failing.bind_eq_ok_iff, Failing.of_result_eq_ok_iff, Failing.of_option_eq_ok_iff]
  exact ⟨_, _, hcolumns, planes, hplanes, rfl⟩

/-- A view of a well-formed frame shows the frame from the first column of the crop on. -/
theorem WellFormed.shows_view (h : frame.WellFormed) {view : FrameView}
    (hview : frame.view crop = .ok view) : view.ShowsFrom frame (Crop.first crop) := by
  unfold Frame.view at hview
  simp only [Failing.bind_eq_ok_iff, Failing.of_result_eq_ok_iff, Failing.of_option_eq_ok_iff,
    Failing.map_eq_some_iff] at hview
  obtain ⟨⟨first, width⟩, hcolumns, planes, hplanes, hresult⟩ := hview
  cases hresult
  obtain ⟨rfl, hinside, heven⟩ := visible_columns_ok h.1 hcolumns
  refine ⟨rfl, fun index hindex ↦ ?_⟩
  obtain ⟨content, hcontent, hsize, hformed⟩ := h.exists_plane hindex
  obtain ⟨plane, hplane, hviewPlane⟩ :=
    Failing.exists_of_forall₂ hplanes (Failing.zip_idx_get hcontent)
  unfold viewPlane? at hviewPlane
  dsimp only at hviewPlane
  split at hviewPlane
  · cases hviewPlane
    refine ⟨_, hplane, rfl, congrArg Canvas.height hsize, fun x y channel hx hy hchannel ↦ ?_⟩
    dsimp only at hx hy ⊢
    have hcolumn : (Crop.first crop / frame.format.subsampling index).toNat + x
        < content.width.toNat := by
      rw [show content.width = (frame.format.planeSize index frame.size).width from
        congrArg Canvas.width hsize, (frame.format.plane_size_to_nat index frame.size).1,
        UInt32.toNat_div]
      rw [UInt32.toNat_div] at hx
      rcases frame.format.subsampling_cases index with hscale | hscale <;> rw [hscale] at hx ⊢ <;>
        omega
    -- The view starts inside the first row, so that both count from the same byte.
    have hpixel : PlaneView.pixel? ⟨content.data,
        (Crop.first crop / frame.format.subsampling index).toNat * frame.format.channels,
        width / frame.format.subsampling index, content.height, content.stride,
        frame.format.channels⟩ x y channel
          = content.pixel? frame.format.channels channel
              ((Crop.first crop / frame.format.subsampling index).toNat + x) y := by
      have hoffset := Plane.offset_lt hcolumn hchannel
      have hend := hformed.row_end_le hy
      have hlimit := hformed.size_lt
      rw [Nat.add_mul] at hoffset
      rw [hformed.pixel_eq hcolumn hy hchannel, PlaneView.pixel?, PlaneView.offset,
        UInt64.toNat_ofNat_of_lt' (by dsimp only; omega), Nat.add_mul]
      congr 1
      dsimp only
      omega
    rw [hpixel, pixel_eq hcontent]
    exact ⟨rfl, hformed.pixel hcolumn hy hchannel⟩
  · cases hviewPlane

end Frame

/-! ### Values at points -/

/-- A place on an axis with pixels is a pixel of it or outside. -/
theorem EdgeMode.exists_resolve (mode : EdgeMode) {length : UInt32} (hlength : 0 < length.toNat)
    (position : Int) : ∃ place, mode.resolve? length position = some place ∧
      ∀ index, place = .pixel index → index < length.toNat := by
  unfold resolve?
  split
  · rename_i hinside
    refine ⟨_, rfl, fun index hindex ↦ ?_⟩
    cases hindex
    omega
  · cases mode with
    | fill => exact ⟨_, rfl, nofun⟩
    | wrap =>
        dsimp only
        rw [if_neg (by omega)]
        refine ⟨_, rfl, fun index hindex ↦ ?_⟩
        cases hindex
        have hbelow := Int.emod_lt_of_pos position (Int.natCast_pos.mpr hlength)
        have hnonnegative := Int.emod_nonneg position (b := length.toNat) (by omega)
        omega

namespace PlaneView

variable {α : Type} [Arithmetic α] {plane : PlaneView} {neighbor? : Int → Int → Option α}

/-- Every pixel of the channel has a byte, and there is one. -/
structure IsFull (plane : PlaneView) (channel : Nat) : Prop where
  width : 0 < plane.width.toNat
  height : 0 < plane.height.toNat
  pixel : ∀ x y, x < plane.width.toNat → y < plane.height.toNat →
    ∃ byte, plane.pixel? x y channel = some byte

/-- A plane of a view is full if it is not empty. -/
theorem IsFull.of_shows {view : FrameView} {frame : Frame} {first : UInt32} {index channel : Nat}
    (h : view.ShowsFrom frame first) (hplane : view.planes[index]? = some plane)
    (hindex : index < frame.format.planeCount) (hchannel : channel < frame.format.channels)
    (hwidth : 0 < plane.width.toNat) (hheight : 0 < plane.height.toNat) :
    plane.IsFull channel := by
  obtain ⟨shown, hshown, _, _, hpixels⟩ := h.plane index hindex
  rw [hplane, Option.some.injEq] at hshown
  subst hshown
  exact ⟨hwidth, hheight, fun x y hx hy ↦ (hpixels x y channel hx hy hchannel).2⟩

/-- Whole coordinates have the value of a byte: that of a pixel, or the one that is filled with. -/
theorem IsFull.neighbor_byte {channel : Nat} (h : plane.IsFull channel) (edge : EdgePolicy)
    (fill : UInt8) (x y : Int) : ∃ byte : UInt8,
      plane.neighbor? channel edge fill x y = some (Arithmetic.ofInt byte.toNat : α) := by
  obtain ⟨column, hcolumn, hcolumnInside⟩ := edge.x.exists_resolve h.width x
  obtain ⟨row, hrow, hrowInside⟩ := edge.y.exists_resolve h.height y
  unfold PlaneView.neighbor?
  rw [hcolumn, hrow]
  cases column with
  | outside => exact ⟨fill, rfl⟩
  | pixel column =>
      cases row with
      | outside => exact ⟨fill, rfl⟩
      | pixel row =>
          obtain ⟨byte, hbyte⟩ := h.pixel column row (hcolumnInside column rfl) (hrowInside row rfl)
          simp only [Option.bind_eq_bind, Option.bind_some, hbyte]
          exact ⟨byte, rfl⟩

/-- Whole coordinates have a value. -/
theorem IsFull.exists_neighbor {channel : Nat} (h : plane.IsFull channel) (edge : EdgePolicy)
    (fill : UInt8) (x y : Int) :
    ∃ value : α, plane.neighbor? channel edge fill x y = some value :=
  (h.neighbor_byte edge fill x y).imp' _ fun _ hvalue ↦ hvalue

/-- The bilinear mean has a value if its neighbors have. -/
theorem exists_bilinear (h : ∀ x y, ∃ value, neighbor? x y = some value) (x y : α) :
    ∃ value, bilinear? neighbor? x y = some value := by
  unfold bilinear?
  dsimp only
  obtain ⟨topLeft, htopLeft⟩ := h (Arithmetic.floor x) (Arithmetic.floor y)
  obtain ⟨topRight, htopRight⟩ := h (Arithmetic.floor x + 1) (Arithmetic.floor y)
  obtain ⟨bottomLeft, hbottomLeft⟩ := h (Arithmetic.floor x) (Arithmetic.floor y + 1)
  obtain ⟨bottomRight, hbottomRight⟩ := h (Arithmetic.floor x + 1) (Arithmetic.floor y + 1)
  rw [htopLeft, htopRight, hbottomLeft, hbottomRight]
  exact ⟨_, rfl⟩

/-- The mean of the corners has a value if they have. -/
theorem exists_biquadratic (h : ∀ x y, ∃ value, neighbor? x y = some value) (x y : α) :
    ∃ value, biquadratic? neighbor? x y = some value := by
  unfold biquadratic?
  dsimp only
  refine Failing.exists_bind_eq_some (Failing.exists_fold_eq_some ?_ _) fun _ ↦ ⟨_, rfl⟩
  rintro ⟨total, weights⟩ ⟨right, down⟩ _
  exact Failing.exists_bind_eq_some (h _ _) fun _ ↦ ⟨_, rfl⟩

/-- A full channel has a value at every point. -/
theorem IsFull.exists_sample {channel : Nat} (h : plane.IsFull channel)
    (interpolation : Interpolation) (edge : EdgePolicy) (fill : UInt8) (x y : α) :
    ∃ value, plane.sample? channel interpolation edge fill x y = some value := by
  have hneighbor := h.exists_neighbor (α := α) edge fill
  unfold sample?
  split
  · exact ⟨_, rfl⟩
  · cases interpolation with
    | nearest => exact hneighbor _ _
    | bilinear => exact exists_bilinear hneighbor x y
    | biquadratic => exact exists_biquadratic hneighbor x y

end PlaneView

end Panorama
