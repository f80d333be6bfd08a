import Panorama.Proofs.Frame.Fresh

/-!
# Frames of given planes

Given planes are accepted as a frame if they have the dimensions of its format and hold the bytes
that they need. The need is a 64-bit word, so a stride that makes it wrap around is accepted with
too few bytes. Where no need wraps around, the accepted frames are the well-formed ones, in which
every pixel has a byte of its own. Read `of_planes_admits` first.
-/

namespace Panorama

namespace Plane

variable {plane : Plane} {channels channel x y otherChannel otherX otherY : Nat}

/-- The bytes that a plane needs: all rows but the last one with their padding, and the last one
without. -/
def neededBytes (plane : Plane) (channels : Nat) : Nat :=
  plane.stride.toNat * (plane.height.toNat - 1) + plane.rowBytes channels

/-- A visible byte stands in front of the end of what the plane needs. -/
theorem position_lt (hx : x < plane.width.toNat) (hy : y < plane.height.toNat)
    (hchannel : channel < channels) :
    y * plane.stride.toNat + (x * channels + channel) < plane.neededBytes channels := by
  have hoffset := offset_lt hx hchannel
  have hrow : y * plane.stride.toNat ≤ (plane.height.toNat - 1) * plane.stride.toNat :=
    Nat.mul_le_mul_right _ (by omega)
  rw [neededBytes, Nat.mul_comm plane.stride.toNat]
  omega

/-- The position of a visible byte does not wrap around where the need does not. -/
theorem address_eq (hneeded : plane.neededBytes channels < UInt64.size)
    (hx : x < plane.width.toNat) (hy : y < plane.height.toNat) (hchannel : channel < channels) :
    (plane.address channels channel x y).toNat
      = y * plane.stride.toNat + (x * channels + channel) := by
  have hposition := position_lt hx hy hchannel
  rw [address, Nat.add_assoc, UInt64.toNat_ofNat_of_lt' (by omega)]

/-- A number of whole parts and what is left over fix each other. -/
theorem parts_unique {part count rest otherCount otherRest : Nat} (hrest : rest < part)
    (hotherRest : otherRest < part) (h : count * part + rest = otherCount * part + otherRest) :
    count = otherCount ∧ rest = otherRest := by
  have hpart : 0 < part := by omega
  have hleft := (Nat.div_mod_unique hpart).mpr
    (show rest + part * count = count * part + rest ∧ rest < part from
      ⟨by rw [Nat.mul_comm, Nat.add_comm], hrest⟩)
  have hright := (Nat.div_mod_unique hpart).mpr
    (show otherRest + part * otherCount = count * part + rest ∧ otherRest < part from
      ⟨by rw [h, Nat.mul_comm, Nat.add_comm], hotherRest⟩)
  exact ⟨hleft.1.symm.trans hright.1, hleft.2.symm.trans hright.2⟩

/-- With rows that do not overlap and a need that does not wrap around, different pixels have
different bytes. -/
theorem address_unique (hstride : plane.rowBytes channels ≤ plane.stride.toNat)
    (hneeded : plane.neededBytes channels < UInt64.size)
    (hx : x < plane.width.toNat) (hy : y < plane.height.toNat) (hchannel : channel < channels)
    (hotherX : otherX < plane.width.toNat) (hotherY : otherY < plane.height.toNat)
    (hotherChannel : otherChannel < channels)
    (h : plane.address channels channel x y = plane.address channels otherChannel otherX otherY) :
    channel = otherChannel ∧ x = otherX ∧ y = otherY := by
  have hposition := congrArg UInt64.toNat h
  rw [address_eq hneeded hx hy hchannel, address_eq hneeded hotherX hotherY hotherChannel]
    at hposition
  obtain ⟨hrow, hoffset⟩ := parts_unique ((offset_lt hx hchannel).trans_le hstride)
    ((offset_lt hotherX hotherChannel).trans_le hstride) hposition
  obtain ⟨hcolumn, hsame⟩ := parts_unique hchannel hotherChannel hoffset
  exact ⟨hsame, hcolumn, hrow⟩

/-- A plane whose need wraps around has a row that starts behind its last byte. -/
theorem exists_row_outside (hdata : plane.data.size < Memory.bufferLimit)
    (hstride : plane.rowBytes channels ≤ plane.stride.toNat)
    (hneeded : UInt64.size ≤ plane.neededBytes channels) :
    ∃ y < plane.height.toNat, plane.data.size ≤ (plane.address channels 0 0 y).toNat := by
  have hlimit : 2 * Memory.bufferLimit = UInt64.size := by decide
  have hword := plane.stride.toNat_lt
  unfold neededBytes at hneeded
  by_cases hlong : plane.data.size ≤ plane.stride.toNat
  · -- The second row starts behind the last byte.
    refine ⟨1, ?_, ?_⟩
    · by_contra hheight
      rw [show plane.height.toNat - 1 = 0 by omega, Nat.mul_zero] at hneeded
      have hsize : UInt64.size = 2 ^ 64 := rfl
      omega
    · rw [address, Nat.one_mul, Nat.zero_mul, Nat.add_zero, UInt64.toNat_ofNat_of_lt' hword]
      exact hlong
  · -- The first row behind the last byte starts before the words wrap around.
    have hpositive : 0 < plane.stride.toNat := by
      by_contra hzero
      rw [show plane.stride.toNat = 0 by omega, Nat.zero_mul] at hneeded
      omega
    have hbelow := Nat.div_mul_le_self plane.data.size plane.stride.toNat
    have habove : plane.data.size
        < plane.data.size / plane.stride.toNat * plane.stride.toNat + plane.stride.toNat :=
      Nat.lt_div_mul_add hpositive
    refine ⟨plane.data.size / plane.stride.toNat + 1, ?_, ?_⟩
    · have hrows : plane.data.size / plane.stride.toNat < plane.height.toNat - 1 := by
        rw [Nat.div_lt_iff_lt_mul hpositive, Nat.mul_comm]
        omega
      exact Nat.add_lt_of_lt_sub hrows
    · rw [address, Nat.zero_mul, Nat.add_zero, Nat.add_zero, Nat.succ_mul,
        UInt64.toNat_ofNat_of_lt' (by omega)]
      exact habove.le

end Plane

namespace Frame

variable {format : PixelFormat} {size : Canvas} {frame : Frame} {planes : List Plane}
  {plane : Plane} {index : Nat}

/-- The planes of a frame hold the bytes that they are found to need, in words that may wrap
around. -/
structure PlanesFit (format : PixelFormat) (size : Canvas) (planes : List Plane) : Prop where
  suited : format.checkSize size = .ok ()
  count : planes.length = format.planeCount
  dimensions : ∀ index plane, planes[index]? = some plane →
    plane.size = format.planeSize index size
  stride : ∀ plane ∈ planes, plane.rowBytes format.channels ≤ plane.stride.toNat
  bytes : ∀ plane ∈ planes, plane.neededBytes format.channels % UInt64.size ≤ plane.data.size

/-- No plane needs more bytes than a word counts. -/
def NeedsFit (format : PixelFormat) (planes : List Plane) : Prop :=
  ∀ plane ∈ planes, plane.neededBytes format.channels < UInt64.size

/-- Every pixel has a byte inside its plane, and no two pixels of a plane have the same. -/
structure HasOwnBytes (frame : Frame) : Prop where
  inside : ∀ index channel x y, frame.format.HasPixel frame.size index channel x y →
    ∃ plane, frame.planes[index]? = some plane ∧
      (plane.address frame.format.channels channel x y).toNat < plane.data.size
  apart : ∀ index plane, frame.planes[index]? = some plane →
    ∀ channel x y otherChannel otherX otherY,
      frame.format.HasPixel frame.size index channel x y →
        frame.format.HasPixel frame.size index otherChannel otherX otherY →
          plane.address frame.format.channels channel x y
              = plane.address frame.format.channels otherChannel otherX otherY →
            channel = otherChannel ∧ x = otherX ∧ y = otherY

/-- The need of a plane is computed in words. -/
theorem needed_word (hheight : 0 < plane.height.toNat) (channels : Nat) :
    (plane.stride * (plane.height.toUInt64 - 1) + .ofNat (plane.rowBytes channels)).toNat
      = plane.neededBytes channels % UInt64.size := by
  have hone : (1 : UInt64) ≤ plane.height.toUInt64 := by
    rw [UInt64.le_iff_toNat_le, UInt32.toNat_toUInt64]
    exact hheight
  rw [UInt64.toNat_add, UInt64.toNat_mul, UInt64.toNat_sub_of_le _ _ hone,
    UInt32.toNat_toUInt64, UInt64.toNat_ofNat', Plane.neededBytes, Nat.add_mod_mod,
    Nat.mod_add_mod]
  rfl

/-- A plane is accepted if it has the format's dimensions, rows that do not overlap, and the bytes
that it is found to need. -/
theorem check_plane_eq_ok_iff (hsize : format.checkSize size = .ok ()) :
    checkPlane format size index plane = .ok () ↔ plane.size = format.planeSize index size ∧
      plane.rowBytes format.channels ≤ plane.stride.toNat ∧
        plane.neededBytes format.channels % UInt64.size ≤ plane.data.size := by
  unfold checkPlane
  by_cases hdimensions : plane.size = format.planeSize index size
  · have hheight : 0 < plane.height.toNat := by
      have hpositive := (PixelFormat.plane_size_pos hsize index).2
      rwa [← hdimensions] at hpositive
    simp only [needed_word hheight]
    rw [if_neg (not_not.mpr hdimensions), and_iff_right hdimensions]
    split
    · rename_i hshort
      exact ⟨nofun, fun hparts ↦ absurd hparts.1 (Nat.not_le.mpr hshort)⟩
    · rename_i hstride
      rw [and_iff_right (Nat.not_lt.mp hstride)]
      split
      · rename_i hshort
        exact ⟨nofun, fun hbytes ↦ absurd hbytes (Nat.not_le.mpr hshort)⟩
      · rename_i hbytes
        exact iff_of_true rfl (Nat.not_lt.mp hbytes)
  · dsimp only
    rw [if_pos hdimensions]
    exact ⟨nofun, fun hparts ↦ absurd hparts.1 hdimensions⟩

/-- Planes are accepted if each one is, at its position. -/
theorem check_planes_eq_ok_iff : checkPlanes format size index planes = .ok () ↔
    ∀ offset plane, planes[offset]? = some plane →
      checkPlane format size (index + offset) plane = .ok () := by
  induction planes generalizing index with
  | nil => exact iff_of_true rfl nofun
  | cons first planes ih =>
      rw [checkPlanes, Failing.bind_eq_ok_iff]
      constructor
      · rintro ⟨⟨⟩, hfirst, hrest⟩ offset plane hplane
        cases offset with
        | zero =>
            cases hplane
            exact hfirst
        | succ offset =>
            have hlater := ih.mp hrest offset plane hplane
            rwa [show index + 1 + offset = index + (offset + 1) by omega] at hlater
      · intro hall
        refine ⟨(), hall 0 first rfl, ih.mpr fun offset plane hplane ↦ ?_⟩
        rw [show index + 1 + offset = index + (offset + 1) by omega]
        exact hall (offset + 1) plane hplane

/-- A frame is made of given planes if they hold the bytes that they are found to need. -/
theorem of_planes_eq_ok_iff : ofPlanes format size planes = .ok frame ↔
    frame = ⟨format, size, planes⟩ ∧ PlanesFit format size planes := by
  unfold ofPlanes
  simp only [Failing.bind_eq_ok_iff, Failing.guard_eq_ok_iff, not_not]
  constructor
  · rintro ⟨⟨⟩, hsize, hcount, ⟨⟩, hplanes, hframe⟩
    cases hframe
    have hall (index : Nat) (plane : Plane) (hplane : planes[index]? = some plane) :=
      (check_plane_eq_ok_iff hsize).mp (check_planes_eq_ok_iff.mp hplanes index plane hplane)
    refine ⟨rfl, hsize, hcount, fun index plane hplane ↦ ?_, fun plane hmem ↦ ?_,
      fun plane hmem ↦ ?_⟩
    · rw [← Nat.zero_add index]
      exact (hall index plane hplane).1
    · obtain ⟨index, hplane⟩ := List.getElem?_of_mem hmem
      exact (hall index plane hplane).2.1
    · obtain ⟨index, hplane⟩ := List.getElem?_of_mem hmem
      exact (hall index plane hplane).2.2
  · rintro ⟨rfl, hfit⟩
    refine ⟨(), hfit.suited, hfit.count, (), ?_, rfl⟩
    refine check_planes_eq_ok_iff.mpr fun index plane hplane ↦ ?_
    have hmem := List.mem_of_getElem? hplane
    rw [Nat.zero_add]
    exact (check_plane_eq_ok_iff hfit.suited).mpr
      ⟨hfit.dimensions index plane hplane, hfit.stride plane hmem, hfit.bytes plane hmem⟩

/-- The planes of a well-formed frame hold what they need, and no need wraps around. -/
theorem WellFormed.planes_fit (h : frame.WellFormed) :
    PlanesFit frame.format frame.size frame.planes ∧ NeedsFit frame.format frame.planes := by
  have hneeded (plane : Plane) (hmem : plane ∈ frame.planes) :
      plane.rowBytes frame.format.channels ≤ plane.stride.toNat ∧
        plane.neededBytes frame.format.channels ≤ plane.data.size ∧
          plane.data.size < UInt64.size := by
    obtain ⟨index, hplane⟩ := List.getElem?_of_mem hmem
    obtain ⟨_, hformed⟩ := h.2.2 index plane hplane
    exact ⟨hformed.1, hformed.2.1, hformed.size_lt⟩
  refine ⟨⟨h.1, h.2.1, fun index plane hplane ↦ (h.2.2 index plane hplane).1, ?_, ?_⟩, ?_⟩
  · intro plane hmem
    exact (hneeded plane hmem).1
  · intro plane hmem
    exact (Nat.mod_le _ _).trans (hneeded plane hmem).2.1
  · intro plane hmem
    obtain ⟨_, hbytes, hsize⟩ := hneeded plane hmem
    exact hbytes.trans_lt hsize

/-- Planes that hold what they need are a well-formed frame if no need wraps around. -/
theorem PlanesFit.well_formed (h : PlanesFit format size planes) (hneeds : NeedsFit format planes)
    (hbuffers : ∀ plane ∈ planes, plane.data.size < Memory.bufferLimit) :
    WellFormed ⟨format, size, planes⟩ := by
  refine ⟨h.suited, h.count, fun index plane hplane ↦ ⟨h.dimensions index plane hplane, ?_⟩⟩
  have hmem := List.mem_of_getElem? hplane
  have hbytes := h.bytes plane hmem
  rw [Nat.mod_eq_of_lt (hneeds plane hmem)] at hbytes
  exact ⟨h.stride plane hmem, hbytes, hbuffers plane hmem⟩

/-- Every pixel of a well-formed frame has a byte of its own. -/
theorem WellFormed.has_own_bytes (h : frame.WellFormed) : frame.HasOwnBytes := by
  obtain ⟨hfit, hneeds⟩ := h.planes_fit
  constructor
  · intro index channel x y hpixel
    obtain ⟨plane, hplane, hsize, hformed⟩ := h.exists_plane hpixel.plane
    obtain ⟨hx, hy⟩ := hpixel.inside hsize
    refine ⟨plane, hplane, ?_⟩
    rw [Plane.address_eq (hneeds plane (List.mem_of_getElem? hplane)) hx hy hpixel.channel]
    exact (Plane.position_lt hx hy hpixel.channel).trans_le hformed.2.1
  · intro index plane hplane channel x y otherChannel otherX otherY hpixel hother
    have hmem := List.mem_of_getElem? hplane
    obtain ⟨hx, hy⟩ := hpixel.inside (hfit.dimensions index plane hplane)
    obtain ⟨hotherX, hotherY⟩ := hother.inside (hfit.dimensions index plane hplane)
    exact Plane.address_unique (hfit.stride plane hmem) (hneeds plane hmem) hx hy hpixel.channel
      hotherX hotherY hother.channel

/-- Where a need wraps around, some pixel has no byte. -/
theorem PlanesFit.needs_fit (h : PlanesFit format size planes)
    (hbuffers : ∀ plane ∈ planes, plane.data.size < Memory.bufferLimit)
    (hbytes : HasOwnBytes ⟨format, size, planes⟩) : NeedsFit format planes := by
  intro plane hmem
  by_contra hneeded
  obtain ⟨index, hplane⟩ := List.getElem?_of_mem hmem
  obtain ⟨hindex, _⟩ := List.getElem?_eq_some_iff.mp hplane
  obtain ⟨y, hy, houtside⟩ := Plane.exists_row_outside (hbuffers plane hmem) (h.stride plane hmem)
    (Nat.not_lt.mp hneeded)
  have hdimensions := h.dimensions index plane hplane
  have hpixel : format.HasPixel size index 0 0 y := by
    refine ⟨h.count ▸ hindex, format.channels_pos,
      (PixelFormat.plane_size_pos h.suited index).1, ?_⟩
    rw [← hdimensions]
    exact hy
  obtain ⟨other, hother, hinside⟩ := hbytes.inside index 0 0 y hpixel
  rw [show planes[index]? = some other from hother, Option.some.injEq] at hplane
  rw [hplane] at hinside
  exact absurd houtside (Nat.not_le.mpr hinside)

/-- Which planes are accepted as a frame. They are, as they stand, if their size suits the format,
and if each one has the dimensions of the format, rows that do not overlap, and at least as many
bytes as it needs, where the need is taken modulo `2 ^ 64`. An accepted frame is well-formed just if
no need reaches `2 ^ 64`, and only then every pixel has a byte of its own. Planes of a well-formed
frame are always accepted. -/
theorem of_planes_admits (hbuffers : ∀ plane ∈ planes, plane.data.size < Memory.bufferLimit) :
    (ofPlanes format size planes = .ok frame ↔
      frame = ⟨format, size, planes⟩ ∧ PlanesFit format size planes) ∧
    (ofPlanes format size planes = .ok frame →
      (frame.WellFormed ↔ NeedsFit format planes) ∧
        (frame.HasOwnBytes ↔ NeedsFit format planes)) ∧
    (WellFormed ⟨format, size, planes⟩ →
      ofPlanes format size planes = .ok ⟨format, size, planes⟩) := by
  refine ⟨of_planes_eq_ok_iff, fun haccepted ↦ ?_, fun hformed ↦ ?_⟩
  · obtain ⟨rfl, hfit⟩ := of_planes_eq_ok_iff.mp haccepted
    refine ⟨⟨fun hformed ↦ hformed.planes_fit.2, fun hneeds ↦ ?_⟩,
      ⟨hfit.needs_fit hbuffers, fun hneeds ↦ ?_⟩⟩
    · exact hfit.well_formed hneeds hbuffers
    · exact (hfit.well_formed hneeds hbuffers).has_own_bytes
  · exact of_planes_eq_ok_iff.mpr ⟨rfl, hformed.planes_fit.1⟩

/-- Two rows of two bytes, with two bytes of padding between them. -/
def paddedRows : Plane := ⟨2, 2, 4, #[1, 2, 0, 0, 3, 4]⟩

/-- A gray frame is made of two rows with padding between them, and every pixel has a byte of its
own. -/
theorem padded_rows_admitted :
    ofPlanes .gray8 ⟨2, 2⟩ [paddedRows] = .ok ⟨.gray8, ⟨2, 2⟩, [paddedRows]⟩ ∧
      HasOwnBytes ⟨.gray8, ⟨2, 2⟩, [paddedRows]⟩ := by
  have hbuffers : ∀ plane ∈ [paddedRows], plane.data.size < Memory.bufferLimit := by
    intro plane hmem
    rw [List.mem_singleton.mp hmem]
    decide
  have hneeds : NeedsFit .gray8 [paddedRows] := by
    intro plane hmem
    rw [List.mem_singleton.mp hmem]
    decide
  have haccepted : ofPlanes .gray8 ⟨2, 2⟩ [paddedRows]
      = .ok ⟨.gray8, ⟨2, 2⟩, [paddedRows]⟩ := rfl
  exact ⟨haccepted, ((of_planes_admits hbuffers).2.1 haccepted).2.mpr hneeds⟩

/-- Two rows of one byte whose starts are `2 ^ 64 - 1` bytes apart, in a plane without bytes. -/
def wrappedRows : Plane := ⟨1, 2, 0xFFFFFFFFFFFFFFFF, #[]⟩

/-- A gray frame is made of a plane that needs `2 ^ 64` bytes and has none: its pixels have no
byte. -/
theorem wrapped_rows_admitted :
    ofPlanes .gray8 ⟨1, 2⟩ [wrappedRows] = .ok ⟨.gray8, ⟨1, 2⟩, [wrappedRows]⟩ ∧
      wrappedRows.data.size < wrappedRows.neededBytes PixelFormat.gray8.channels ∧
        PixelFormat.gray8.HasPixel ⟨1, 2⟩ 0 0 0 1 ∧
          pixel? ⟨.gray8, ⟨1, 2⟩, [wrappedRows]⟩ 0 0 0 1 = none := by
  refine ⟨rfl, by decide, ⟨?_, ?_, ?_, ?_⟩, rfl⟩
  · show 0 < 1
    omega
  · show 0 < 1
    omega
  · show 0 < 1
    omega
  · show 1 < 2
    omega

end Frame

end Panorama
