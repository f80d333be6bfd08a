import Panorama.Frame.Packed
import Panorama.Frame.Preview
import Panorama.Proofs.Failing

/-!
# What a frame shows

Every pixel of a well-formed frame has a byte of its own, whose position does not wrap around. Two
well-formed frames that show the same may differ in their strides and their padding; they have the
same rows, the same packed form and the same previews. Read `Frame.LooksLike` first.
-/

namespace Panorama

/-! ### Planes -/

namespace Plane

variable {plane other : Plane} {channels channel x y : Nat}

/-- The byte of a channel of a pixel. -/
def pixel? (plane : Plane) (channels channel x y : Nat) : Option UInt8 :=
  plane.data[(plane.address channels channel x y).toNat]?

/-- The byte of a pixel lies in the visible part of its row. -/
theorem offset_lt (hx : x < plane.width.toNat) (hchannel : channel < channels) :
    x * channels + channel < plane.rowBytes channels := by
  calc x * channels + channel < x * channels + channels := Nat.add_lt_add_left hchannel _
    _ = (x + 1) * channels := (Nat.succ_mul x channels).symm
    _ ≤ plane.rowBytes channels := Nat.mul_le_mul_right channels hx

namespace WellFormed

/-- The rows of a well-formed plane end inside its buffer. -/
theorem row_end_le (h : plane.WellFormed channels) (hy : y < plane.height.toNat) :
    y * plane.stride.toNat + plane.rowBytes channels ≤ plane.data.size := by
  have hrow : y * plane.stride.toNat ≤ (plane.height.toNat - 1) * plane.stride.toNat :=
    Nat.mul_le_mul_right _ (by omega)
  have hlast := h.2.1
  rw [Nat.mul_comm] at hlast
  omega

/-- The buffer of a well-formed plane is smaller than a 64-bit word counts. -/
theorem size_lt (h : plane.WellFormed channels) : plane.data.size < UInt64.size :=
  h.2.2.trans (by decide)

/-- The position of a visible byte does not wrap around. -/
theorem pixel_eq (h : plane.WellFormed channels) (hx : x < plane.width.toNat)
    (hy : y < plane.height.toNat) (hchannel : channel < channels) :
    plane.pixel? channels channel x y
      = plane.data[y * plane.stride.toNat + (x * channels + channel)]? := by
  have hoffset := offset_lt hx hchannel
  have hend := h.row_end_le hy
  have hsize := h.size_lt
  rw [pixel?, address, UInt64.toNat_ofNat_of_lt' (by omega), Nat.add_assoc]

/-- A visible pixel has a byte. -/
theorem pixel (h : plane.WellFormed channels) (hx : x < plane.width.toNat)
    (hy : y < plane.height.toNat) (hchannel : channel < channels) :
    ∃ byte, plane.pixel? channels channel x y = some byte := by
  have hoffset := offset_lt hx hchannel
  have hend := h.row_end_le hy
  rw [h.pixel_eq hx hy hchannel]
  exact ⟨_, Array.getElem?_eq_getElem (by omega)⟩

/-- A row of a well-formed plane is the visible part of its bytes. -/
theorem row (h : plane.WellFormed channels) (hy : y < plane.height.toNat) :
    plane.row? channels y = some (plane.data.extract (y * plane.stride.toNat)
      (y * plane.stride.toNat + plane.rowBytes channels)).toList := by
  have hend := h.row_end_le hy
  have hsize := h.size_lt
  have hstart : (plane.address channels 0 0 y).toNat = y * plane.stride.toNat := by
    rw [address, UInt64.toNat_ofNat_of_lt' (by omega), Nat.zero_mul, Nat.add_zero]
  have hstop : (plane.address channels 0 0 y + .ofNat (plane.rowBytes channels)).toNat
      = y * plane.stride.toNat + plane.rowBytes channels := by
    rw [UInt64.toNat_add, hstart, UInt64.toNat_ofNat_of_lt' (by omega)]
    exact Nat.mod_eq_of_lt (Nat.lt_of_le_of_lt hend hsize)
  have horder : plane.address channels 0 0 y
      ≤ plane.address channels 0 0 y + .ofNat (plane.rowBytes channels) := by
    rw [UInt64.le_iff_toNat_le, hstart, hstop]
    exact Nat.le_add_right _ _
  rw [row?, if_pos ⟨horder, hstop.trans_le hend⟩, hstart, hstop]

/-- A well-formed plane has its rows. -/
theorem exists_rows_from (h : plane.WellFormed channels) {count : Nat}
    (hend : y + count ≤ plane.height.toNat) :
    ∃ rows, plane.rowsFrom? channels y count = some rows := by
  induction count generalizing y with
  | zero => exact ⟨[], rfl⟩
  | succ count ih =>
      obtain ⟨rows, hrows⟩ := ih (y := y + 1) (by omega)
      rw [rowsFrom?, h.row (by omega), hrows]
      exact ⟨_, rfl⟩

end WellFormed

/-- Two planes have the same visible rows. -/
def SameRows (channels : Nat) (plane other : Plane) : Prop :=
  plane.size = other.size ∧ ∀ y < plane.height.toNat, plane.row? channels y = other.row? channels y

/-- Well-formed planes with the same pixels have the same rows. -/
theorem WellFormed.same_rows (h : plane.WellFormed channels) (hother : other.WellFormed channels)
    (hchannels : 0 < channels) (hsize : plane.size = other.size)
    (hpixels : ∀ channel x y, channel < channels → x < plane.width.toNat →
      y < plane.height.toNat →
        plane.pixel? channels channel x y = other.pixel? channels channel x y) :
    SameRows channels plane other := by
  refine ⟨hsize, fun y hy ↦ ?_⟩
  have hwidth : plane.width = other.width := congrArg Canvas.width hsize
  have hheight : plane.height = other.height := congrArg Canvas.height hsize
  have hbytes : plane.rowBytes channels = other.rowBytes channels := by
    rw [rowBytes, rowBytes, hwidth]
  have hend := h.row_end_le hy
  have hotherEnd := hother.row_end_le (hheight ▸ hy)
  rw [h.row hy, hother.row (hheight ▸ hy), Option.some.injEq, Array.toList_inj]
  refine Array.ext_getElem? fun offset ↦ ?_
  rw [Array.getElem?_extract, Array.getElem?_extract, Nat.min_eq_left hend,
    Nat.min_eq_left hotherEnd, hbytes, Nat.add_sub_cancel_left, Nat.add_sub_cancel_left]
  split
  · rename_i hoffset
    have hcolumn : offset / channels < plane.width.toNat := by
      rw [Nat.div_lt_iff_lt_mul hchannels]
      exact hoffset.trans_eq hbytes.symm
    -- Every byte of a row is a channel of a pixel.
    have hbyte := hpixels (offset % channels) (offset / channels) y (Nat.mod_lt _ hchannels)
      hcolumn hy
    rwa [h.pixel_eq hcolumn hy (Nat.mod_lt _ hchannels),
      hother.pixel_eq (hwidth ▸ hcolumn) (hheight ▸ hy) (Nat.mod_lt _ hchannels),
      Nat.div_add_mod' offset channels] at hbyte
  · rfl

end Plane

/-! ### Frames -/

/-- A frame of this format and size shows this channel of this pixel in this plane. -/
structure PixelFormat.HasPixel (format : PixelFormat) (size : Canvas)
    (index channel x y : Nat) : Prop where
  plane : index < format.planeCount
  channel : channel < format.channels
  column : x < (format.planeSize index size).width.toNat
  row : y < (format.planeSize index size).height.toNat

/-- The pixels that a frame shows lie inside its planes. -/
theorem PixelFormat.HasPixel.inside {format : PixelFormat} {size : Canvas}
    {index channel x y : Nat} (h : format.HasPixel size index channel x y) {plane : Plane}
    (hsize : plane.size = format.planeSize index size) :
    x < plane.width.toNat ∧ y < plane.height.toNat := by
  have hcolumn := h.column
  have hrow := h.row
  rw [← hsize] at hcolumn hrow
  exact ⟨hcolumn, hrow⟩

/-- Every format has a channel. -/
theorem PixelFormat.channels_pos (format : PixelFormat) : 0 < format.channels := by
  cases format <;> decide

namespace Frame

variable {frame other : Frame} {index channel x y : Nat}

/-- Two frames of one format and size show the same bytes. -/
structure LooksLike (frame other : Frame) : Prop where
  format : frame.format = other.format
  size : frame.size = other.size
  pixel : ∀ index channel x y, frame.format.HasPixel frame.size index channel x y →
    frame.pixel? index channel x y = other.pixel? index channel x y

/-- A byte of a frame is one of its plane. -/
theorem pixel_eq {plane : Plane} (hplane : frame.planes[index]? = some plane) :
    frame.pixel? index channel x y = plane.pixel? frame.format.channels channel x y := by
  rw [pixel?, hplane]
  rfl

namespace WellFormed

/-- A well-formed frame has every plane of its format. -/
theorem exists_plane (h : frame.WellFormed) (hindex : index < frame.format.planeCount) :
    ∃ plane, frame.planes[index]? = some plane ∧
      plane.size = frame.format.planeSize index frame.size ∧
        plane.WellFormed frame.format.channels := by
  rw [← h.2.1] at hindex
  exact ⟨_, List.getElem?_eq_getElem hindex, h.2.2 index _ (List.getElem?_eq_getElem hindex)⟩

/-- Every pixel that a well-formed frame shows has a byte. -/
theorem pixel (h : frame.WellFormed)
    (hpixel : frame.format.HasPixel frame.size index channel x y) :
    ∃ byte, frame.pixel? index channel x y = some byte := by
  obtain ⟨plane, hplane, hsize, hformed⟩ := h.exists_plane hpixel.plane
  obtain ⟨hcolumn, hrow⟩ := hpixel.inside hsize
  rw [pixel_eq hplane]
  exact hformed.pixel hcolumn hrow hpixel.channel

/-- A well-formed frame has a packed form. -/
theorem exists_packed (h : frame.WellFormed) : ∃ bytes, frame.packed? = some bytes := by
  have hplane (plane : Plane) (hmem : plane ∈ frame.planes) :
      ∃ rows, plane.rows? frame.format.channels = some rows := by
    obtain ⟨index, hplane⟩ := List.getElem?_of_mem hmem
    exact (h.2.2 index plane hplane).2.exists_rows_from (by omega)
  obtain ⟨rows, hrows⟩ := Failing.exists_map_eq_some hplane
  rw [packed?, rows?, hrows]
  exact ⟨_, rfl⟩

/-- Well-formed frames that look alike have the same rows in every plane. -/
theorem same_rows (h : frame.WellFormed) (hother : other.WellFormed)
    (hlike : frame.LooksLike other) :
    List.Forall₂ (Plane.SameRows frame.format.channels) frame.planes other.planes := by
  have hlength : frame.planes.length = other.planes.length := by
    rw [h.2.1, hother.2.1, hlike.format]
  refine List.forall₂_iff_get.mpr ⟨hlength, fun index hindex hotherIndex ↦ ?_⟩
  have hplane := List.getElem?_eq_getElem hindex
  have hotherPlane := List.getElem?_eq_getElem hotherIndex
  obtain ⟨hsize, hformed⟩ := h.2.2 index _ hplane
  obtain ⟨hotherSize, hotherFormed⟩ := hother.2.2 index _ hotherPlane
  rw [← hlike.format, ← hlike.size, ← hsize] at hotherSize
  rw [← hlike.format] at hotherFormed
  refine hformed.same_rows hotherFormed frame.format.channels_pos hotherSize.symm ?_
  intro channel x y hchannel hx hy
  have hpixel := hlike.pixel index channel x y ⟨h.2.1 ▸ hindex, hchannel,
    congrArg Canvas.width hsize ▸ hx, congrArg Canvas.height hsize ▸ hy⟩
  rwa [pixel_eq hplane, pixel_eq hotherPlane, ← hlike.format] at hpixel

end WellFormed

end Frame

/-! ### What depends on the rows only -/

namespace Plane

variable {plane other : Plane} {channels : Nat}

/-- Planes with the same rows have the same lists of rows. -/
theorem SameRows.rows_from (h : SameRows channels plane other) {y count : Nat}
    (hend : y + count ≤ plane.height.toNat) :
    plane.rowsFrom? channels y count = other.rowsFrom? channels y count := by
  induction count generalizing y with
  | zero => rfl
  | succ count ih =>
      rw [rowsFrom?, rowsFrom?, h.2 y (by omega), ih (by omega)]

/-- Planes with the same rows have the same list of all rows. -/
theorem SameRows.rows (h : SameRows channels plane other) :
    plane.rows? channels = other.rows? channels := by
  rw [rows?, h.rows_from (by omega), show plane.height = other.height from
    congrArg Canvas.height h.1]
  rfl

end Plane

namespace Frame

variable {frame other : Frame}

/-- Planes with the same rows are written in the same way. -/
theorem write_rows_eq {plane other : Plane} {channels : Nat}
    (h : Plane.SameRows channels plane other) {y count : Nat} (sink : Sink)
    (hend : y + count ≤ plane.height.toNat) :
    writeRows plane channels y count sink = writeRows other channels y count sink := by
  induction count generalizing y sink with
  | zero => rfl
  | succ count ih =>
      rw [writeRows, writeRows, h.2 y (by omega)]
      cases other.row? channels y with
      | none => rfl
      | some row =>
          dsimp only
          cases sink.write row with
          | error error => rfl
          | ok sink => exact ih sink (by omega)

/-- Lists of planes with the same rows are written in the same way. -/
theorem write_planes_eq {channels : Nat} {planes others : List Plane}
    (h : List.Forall₂ (Plane.SameRows channels) planes others) (sink : Sink) :
    writePlanes channels planes sink = writePlanes channels others sink := by
  induction h generalizing sink with
  | nil => rfl
  | @cons plane other _ _ hfirst _ ih =>
      have hheight : plane.height = other.height := congrArg Canvas.height hfirst.1
      rw [writePlanes, writePlanes, write_rows_eq hfirst sink (by omega), hheight]
      rcases writeRows other channels 0 other.height.toNat sink with ⟨_ | _, sink⟩
      · rfl
      · exact ih sink

/-- A plane with the same rows is resized in the same way. -/
theorem resize_plane_eq {format : PixelFormat} {plane other : Plane}
    (h : Plane.SameRows format.channels plane other) (size : Canvas) :
    resizePlane format plane size = resizePlane format other size := by
  rw [resizePlane, resizePlane, h.rows, h.1]

/-- Two frames of one format and size have the same packed form, and they are written in the same
way. -/
structure SamePacked (frame other : Frame) : Prop where
  format : frame.format = other.format
  size : frame.size = other.size
  packed : ∃ bytes, frame.packed? = some bytes ∧ other.packed? = some bytes
  written : ∀ sink, frame.writePacked sink = other.writePacked sink

namespace LooksLike

/-- Well-formed frames that look alike have the same packed form. -/
theorem packed (hlike : frame.LooksLike other) (h : frame.WellFormed)
    (hother : other.WellFormed) : frame.packed? = other.packed? := by
  rw [packed?, packed?, rows?, rows?, ← hlike.format, Failing.map_congr (h.same_rows hother hlike)
    fun plane other hsame ↦ hsame.rows]

/-- Well-formed frames that look alike are written in the same way. -/
theorem write_packed (hlike : frame.LooksLike other) (h : frame.WellFormed)
    (hother : other.WellFormed) (sink : Sink) :
    frame.writePacked sink = other.writePacked sink := by
  rw [writePacked, writePacked, ← hlike.format, write_planes_eq (h.same_rows hother hlike)]

/-- Well-formed frames that look alike cannot be told apart by what is packed. -/
theorem same_packed (hlike : frame.LooksLike other) (h : frame.WellFormed)
    (hother : other.WellFormed) : frame.SamePacked other := by
  obtain ⟨bytes, hbytes⟩ := h.exists_packed
  exact ⟨hlike.format, hlike.size, ⟨bytes, hbytes, hlike.packed h hother ▸ hbytes⟩,
    hlike.write_packed h hother⟩

/-- Well-formed frames that look alike have the same previews. -/
theorem preview (hlike : frame.LooksLike other) (h : frame.WellFormed)
    (hother : other.WellFormed) (size : Canvas) : frame.preview size = other.preview size := by
  unfold Frame.preview
  rw [← hlike.format]
  refine bind_congr fun _ ↦ bind_congr fun target ↦ congrArg (Outcome.ofOption · >>= _) ?_
  refine Failing.map_congr (Failing.zip_related (h.same_rows hother hlike) target.planes) ?_
  rintro ⟨source, plane⟩ ⟨otherSource, _⟩ ⟨hsame, rfl⟩
  dsimp only
  rw [resize_plane_eq hsame]

end LooksLike

end Frame

end Panorama
