import Panorama.Proofs.Frame.Visible

/-!
# Sizes that formats accept, and blank frames

A size that a format accepts leaves no plane empty. Blank frames are well-formed, and there is
memory for one whenever a well-formed frame of its format and size exists. Clearing a frame keeps
its shape and shows "no signal" everywhere.
-/

namespace Panorama

/-- A side is even if its number is. -/
theorem even_iff (side : UInt32) : (side % 2 != 0) = false ↔ side.toNat % 2 = 0 := by
  rw [bne_eq_false_iff_eq, ← UInt32.toNat_inj, UInt32.toNat_mod]
  rfl

namespace PixelFormat

variable {format : PixelFormat} {size : Canvas}

/-- A format accepts a size that has a pixel and does not split a chroma pixel. -/
theorem check_size_eq_ok_iff : format.checkSize size = .ok () ↔
    (0 < size.width.toNat ∧ 0 < size.height.toNat) ∧
      (format.isChromaSubsampled → size.width.toNat % 2 = 0 ∧ size.height.toNat % 2 = 0) := by
  have hzero (side : UInt32) : (side == 0) = false ↔ 0 < side.toNat := by
    rw [beq_eq_false_iff_ne, Ne, ← UInt32.toNat_inj]
    exact Nat.pos_iff_ne_zero.symm
  unfold checkSize Canvas.isEmpty
  rw [← hzero, ← hzero, ← even_iff, ← even_iff]
  cases size.width == 0 <;> cases size.height == 0 <;> cases format.isChromaSubsampled <;>
    cases size.width % 2 != 0 <;> cases size.height % 2 != 0 <;> simp

/-- A plane has the dimensions of the frame, divided by its subsampling. -/
theorem plane_size_to_nat (format : PixelFormat) (index : Nat) (size : Canvas) :
    (format.planeSize index size).width.toNat
        = size.width.toNat / (format.subsampling index).toNat ∧
      (format.planeSize index size).height.toNat
        = size.height.toNat / (format.subsampling index).toNat :=
  ⟨UInt32.toNat_div .., UInt32.toNat_div ..⟩

/-- A plane is subsampled by two if it is a chroma plane of half the resolution. -/
theorem subsampling_to_nat (format : PixelFormat) (index : Nat) :
    (format.subsampling index).toNat = if 0 < index ∧ format.isChromaSubsampled then 2 else 1 := by
  unfold subsampling
  simp only [Bool.and_eq_true, decide_eq_true_eq]
  split <;> rfl

/-- Planes are not subsampled, or by two. -/
theorem subsampling_cases (format : PixelFormat) (index : Nat) :
    (format.subsampling index).toNat = 1 ∨ (format.subsampling index).toNat = 2 := by
  rw [subsampling_to_nat]
  split
  · exact .inr rfl
  · exact .inl rfl

/-- A pixel of a plane stands for a pixel of the frame. -/
theorem HasPixel.scaled {index channel x y : Nat} (h : format.HasPixel size index channel x y) :
    (format.subsampling index).toNat * x < size.width.toNat ∧
      (format.subsampling index).toNat * y < size.height.toNat := by
  have hcolumn := h.column
  have hrow := h.row
  rw [(format.plane_size_to_nat index size).1] at hcolumn
  rw [(format.plane_size_to_nat index size).2] at hrow
  rcases format.subsampling_cases index with hscale | hscale <;> rw [hscale] at hcolumn hrow ⊢ <;>
    omega

/-- No plane of an accepted size is empty. -/
theorem plane_size_pos (h : format.checkSize size = .ok ()) (index : Nat) :
    0 < (format.planeSize index size).width.toNat ∧
      0 < (format.planeSize index size).height.toNat := by
  obtain ⟨⟨hwidth, hheight⟩, heven⟩ := check_size_eq_ok_iff.mp h
  obtain ⟨hplaneWidth, hplaneHeight⟩ := format.plane_size_to_nat index size
  rw [hplaneWidth, hplaneHeight, subsampling_to_nat]
  split
  · rename_i hchroma
    have hevenSides := heven hchroma.2
    omega
  · omega

end PixelFormat

/-- A product is found if it fits in a word. -/
theorem PixelFormat.checked_product_eq_ok_iff {left right product : Nat} :
    checkedProduct left right = .ok product
      ↔ left * right < UInt64.size ∧ product = left * right := by
  unfold checkedProduct
  split
  · simp_all [eq_comm]
  · simp_all

namespace Frame

variable {format : PixelFormat} {size : Canvas} {frame : Frame} {index : Nat}
  {planes : List TightPlane}

/-- Bytes of a row of a plane without padding. -/
def tightRow (format : PixelFormat) (size : Canvas) (index : Nat) : Nat :=
  (format.planeSize index size).width.toNat * format.channels

/-- A tight plane has rows without padding, and there is memory for it. -/
theorem tight_plane_eq_ok_iff {plane : TightPlane} :
    tightPlane format size index = .ok plane ↔ tightRow format size index < UInt64.size ∧
      tightRow format size index * (format.planeSize index size).height.toNat
        < Memory.bufferLimit ∧
      plane = ⟨format.planeSize index size, .ofNat (tightRow format size index),
        tightRow format size index * (format.planeSize index size).height.toNat⟩ := by
  have hlimit : Memory.bufferLimit < UInt64.size := by decide
  unfold tightPlane
  simp only [Failing.bind_eq_ok_iff, PixelFormat.checked_product_eq_ok_iff]
  constructor
  · intro hparts
    obtain ⟨_, ⟨hrow, rfl⟩, _, ⟨_, rfl⟩, hplane⟩ := hparts
    split at hplane
    · rename_i hmemory
      cases hplane
      rw [Memory.holds, Nat.mul_one, decide_eq_true_eq] at hmemory
      exact ⟨hrow, hmemory, rfl⟩
    · cases hplane
  · intro hparts
    obtain ⟨hrow, hmemory, rfl⟩ := hparts
    refine ⟨_, ⟨hrow, rfl⟩, _, ⟨hmemory.trans hlimit, rfl⟩, if_pos ?_⟩
    rw [Memory.holds, Nat.mul_one]
    exact decide_eq_true hmemory

/-- A tight plane that is filled with as many bytes as it has is well-formed. -/
theorem well_formed_of_tight {plane : TightPlane} (hsize : format.checkSize size = .ok ())
    (hplane : tightPlane format size index = .ok plane) {data : Array UInt8}
    (hdata : data.size = plane.bytes) :
    (plane.fill data).size = format.planeSize index size ∧
      (plane.fill data).WellFormed format.channels := by
  obtain ⟨hrow, hmemory, rfl⟩ := tight_plane_eq_ok_iff.mp hplane
  have hheight := (PixelFormat.plane_size_pos hsize index).2
  refine ⟨rfl, ?_, ?_, hdata.trans_lt hmemory⟩
  · exact (UInt64.toNat_ofNat_of_lt' hrow).ge
  · show (UInt64.ofNat (tightRow format size index)).toNat
        * ((format.planeSize index size).height.toNat - 1) + tightRow format size index ≤ data.size
    rw [UInt64.toNat_ofNat_of_lt' hrow, hdata, ← Nat.mul_succ, Nat.succ_eq_add_one,
      Nat.sub_add_cancel hheight]

/-- The tight planes of an accepted size, in order. -/
theorem tight_planes_eq_ok_iff : tightPlanes format size = .ok planes ↔
    format.checkSize size = .ok () ∧ List.Forall₂
      (fun index plane ↦ tightPlane format size index = .ok plane)
      (List.range format.planeCount) planes := by
  rw [tightPlanes, Failing.bind_eq_ok_iff, Failing.map_eq_ok_iff]
  exact ⟨fun ⟨_, hsize, hplanes⟩ ↦ ⟨hsize, hplanes⟩, fun ⟨hsize, hplanes⟩ ↦ ⟨_, hsize, hplanes⟩⟩

/-- A tight plane is made for its position. -/
theorem tight_plane_of_tight_planes (h : tightPlanes format size = .ok planes)
    {plane : TightPlane} (hplane : planes[index]? = some plane) :
    tightPlane format size index = .ok plane := by
  obtain ⟨-, hplanes⟩ := tight_planes_eq_ok_iff.mp h
  have hindex : index < format.planeCount := by
    rw [← List.length_range (n := format.planeCount), hplanes.length_eq]
    exact (List.getElem?_eq_some_iff.mp hplane).1
  obtain ⟨_, hsame, hready⟩ := Failing.exists_of_forall₂ hplanes (List.getElem?_range hindex)
  rw [hplane, Option.some.injEq] at hsame
  exact hsame ▸ hready

/-- A blank frame is made of tight planes, one for each of its format, for a size that the format
accepts. -/
theorem blank_planes (h : blank format size = .ok frame) :
    format.checkSize size = .ok () ∧ frame.planes.length = format.planeCount ∧
      ∀ (index : Nat) (plane : Plane), frame.planes[index]? = some plane →
        ∃ tight, tightPlane format size index = .ok tight ∧
          plane = tight.fill (Array.replicate tight.bytes (format.noSignal index)) := by
  obtain ⟨planes, hplanes, hframe⟩ := Failing.bind_eq_ok_iff.mp h
  cases hframe
  obtain ⟨hsize, hready⟩ := tight_planes_eq_ok_iff.mp hplanes
  have hlength := hready.length_eq
  rw [List.length_range] at hlength
  refine ⟨hsize, (List.length_mapIdx ..).trans hlength.symm, fun index plane hplane ↦ ?_⟩
  rw [List.getElem?_mapIdx, Option.map_eq_some_iff] at hplane
  obtain ⟨tight, htight, rfl⟩ := hplane
  exact ⟨tight, tight_plane_of_tight_planes hplanes htight, rfl⟩

/-- A blank frame is well-formed and has the format and size that were asked for. -/
theorem blank_ok (h : blank format size = .ok frame) :
    frame.WellFormed ∧ frame.format = format ∧ frame.size = size := by
  obtain ⟨hsize, hcount, hplanes⟩ := blank_planes h
  obtain ⟨_, _, hframe⟩ := Failing.bind_eq_ok_iff.mp h
  cases hframe
  refine ⟨⟨hsize, hcount, fun index plane hplane ↦ ?_⟩, rfl, rfl⟩
  obtain ⟨tight, htight, rfl⟩ := hplanes index plane hplane
  exact well_formed_of_tight hsize htight Array.size_replicate

/-- A well-formed frame has a pixel in every row. -/
theorem WellFormed.row_bytes_pos (h : frame.WellFormed) {plane : Plane}
    (hplane : plane ∈ frame.planes) : 0 < plane.rowBytes frame.format.channels := by
  obtain ⟨index, hindex⟩ := List.getElem?_of_mem hplane
  have hwidth := (PixelFormat.plane_size_pos h.1 index).1
  rw [← (h.2.2 index plane hindex).1] at hwidth
  exact Nat.mul_pos hwidth frame.format.channels_pos

/-- A well-formed frame has room for a pixel in every row. -/
theorem WellFormed.stride_pos (h : frame.WellFormed) {plane : Plane}
    (hplane : plane ∈ frame.planes) : 0 < plane.stride.toNat := by
  obtain ⟨index, hindex⟩ := List.getElem?_of_mem hplane
  exact (h.row_bytes_pos hplane).trans_le (h.2.2 index plane hindex).2.1

/-- There is memory for a plane like one of a well-formed frame, and it is no larger. -/
theorem WellFormed.exists_tight_plane (h : frame.WellFormed) {plane : Plane}
    (hplane : frame.planes[index]? = some plane) :
    ∃ tight, tightPlane frame.format frame.size index = .ok tight ∧
      tight.bytes ≤ plane.data.size := by
  obtain ⟨hsize, hformed⟩ := h.2.2 index plane hplane
  have hrow : tightRow frame.format frame.size index = plane.rowBytes frame.format.channels := by
    rw [tightRow, ← hsize]
    rfl
  have hheight : 0 < plane.height.toNat := by
    have hpositive := (PixelFormat.plane_size_pos h.1 index).2
    rwa [← hsize] at hpositive
  -- The frame has at least the bytes of one without padding, and these fit in a buffer.
  have hbytes : plane.rowBytes frame.format.channels * plane.height.toNat ≤ plane.data.size := by
    calc plane.rowBytes frame.format.channels * plane.height.toNat
        = plane.rowBytes frame.format.channels * (plane.height.toNat - 1)
            + plane.rowBytes frame.format.channels := by
          rw [← Nat.mul_succ, Nat.succ_eq_add_one, Nat.sub_add_cancel hheight]
      _ ≤ plane.stride.toNat * (plane.height.toNat - 1)
            + plane.rowBytes frame.format.channels := by
          exact Nat.add_le_add_right (Nat.mul_le_mul_right _ hformed.1) _
      _ ≤ plane.data.size := hformed.2.1
  refine ⟨_, tight_plane_eq_ok_iff.mpr ⟨?_, ?_, rfl⟩, ?_⟩
  · rw [hrow]
    exact hformed.1.trans_lt plane.stride.toNat_lt
  · rw [hrow, ← hsize]
    exact hbytes.trans_lt hformed.2.2
  · show tightRow frame.format frame.size index * _ ≤ _
    rw [hrow, ← hsize]
    exact hbytes

/-- There is memory for a blank frame like any well-formed one. -/
theorem WellFormed.exists_blank (h : frame.WellFormed) :
    ∃ fresh, blank frame.format frame.size = .ok fresh := by
  have hplane (index : Nat) (hindex : index ∈ List.range frame.format.planeCount) :
      ∃ plane, tightPlane frame.format frame.size index = .ok plane := by
    obtain ⟨plane, hplane, -⟩ := h.exists_plane (List.mem_range.mp hindex)
    obtain ⟨tight, htight, -⟩ := h.exists_tight_plane hplane
    exact ⟨tight, htight⟩
  obtain ⟨planes, hplanes⟩ := Failing.exists_map_eq_ok hplane
  refine ⟨_, Failing.bind_eq_ok_iff.mpr ⟨planes, ?_, rfl⟩⟩
  exact Failing.bind_eq_ok_iff.mpr ⟨(), h.1, hplanes⟩

/-! ### Cleared frames -/

/-- The planes of a cleared frame are those of the frame with other bytes. -/
theorem fill_no_signal_planes {plane : Plane}
    (h : frame.fillNoSignal.planes[index]? = some plane) :
    ∃ before, frame.planes[index]? = some before ∧ plane = { before with
      data := Array.replicate before.data.size (frame.format.noSignal index) } := by
  unfold fillNoSignal at h
  rw [List.getElem?_mapIdx, Option.map_eq_some_iff] at h
  obtain ⟨before, hbefore, rfl⟩ := h
  exact ⟨before, hbefore, rfl⟩

/-- A cleared frame stays well-formed. -/
theorem WellFormed.fill_no_signal (h : frame.WellFormed) : frame.fillNoSignal.WellFormed := by
  refine ⟨h.1, (List.length_mapIdx ..).trans h.2.1, fun index plane hplane ↦ ?_⟩
  obtain ⟨before, hbefore, rfl⟩ := fill_no_signal_planes hplane
  obtain ⟨hsize, hformed⟩ := h.2.2 index before hbefore
  refine ⟨hsize, hformed.1, ?_⟩
  rw [Array.size_replicate]
  exact hformed.2

/-- A cleared frame shows "no signal". -/
theorem WellFormed.fill_no_signal_pixel (h : frame.WellFormed) {channel x y : Nat}
    (hpixel : frame.format.HasPixel frame.size index channel x y) :
    frame.fillNoSignal.pixel? index channel x y = some (frame.format.noSignal index) := by
  obtain ⟨plane, hplane, hsize, hformed⟩ := h.fill_no_signal.exists_plane hpixel.plane
  obtain ⟨before, _, hbefore⟩ := fill_no_signal_planes hplane
  obtain ⟨hcolumn, hrow⟩ := hpixel.inside hsize
  obtain ⟨byte, hbyte⟩ := hformed.pixel hcolumn hrow hpixel.channel
  rw [pixel_eq hplane, hbyte]
  rw [Plane.pixel?, hbefore, Array.getElem?_replicate] at hbyte
  split at hbyte
  · exact hbyte.symm
  · cases hbyte

/-! ### Frames of one row -/

/-- A gray frame of one row, which may have padding behind it. -/
def grayRow (width : UInt32) (bytes : Array UInt8) : Frame :=
  ⟨.gray8, ⟨width, 1⟩, [⟨width, 1, bytes.size.toUInt64, bytes⟩]⟩

/-- A gray row is a well-formed frame if it has a byte for each of its pixels. -/
theorem gray_row_formed {width : UInt32} {bytes : Array UInt8} (hwidth : 0 < width.toNat)
    (hbytes : width.toNat ≤ bytes.size) (hlimit : bytes.size < Memory.bufferLimit) :
    (grayRow width bytes).WellFormed := by
  have hstride : bytes.size.toUInt64.toNat = bytes.size :=
    UInt64.toNat_ofNat_of_lt' (hlimit.trans (by decide))
  refine ⟨?_, rfl, fun index plane hplane ↦ ?_⟩
  · exact PixelFormat.check_size_eq_ok_iff.mpr ⟨⟨hwidth, Nat.one_pos⟩, nofun⟩
  · cases index with
    | zero =>
        cases hplane
        refine ⟨by simp [Plane.size, grayRow, PixelFormat.planeSize, PixelFormat.subsampling], ?_⟩
        simp [Plane.WellFormed, Plane.rowBytes, grayRow, PixelFormat.channels, hstride, hbytes,
          hlimit]
    | succ index => cases hplane

end Frame

end Panorama
