import Panorama.Frame.Preview
import Panorama.Proofs.Frame.Fresh

/-!
# Previews of well-formed frames

Whatever size a plane is resampled to, the result has exactly the bytes of a plane of that size.
Wherever there is memory for a blank frame, the preview of a well-formed frame is one too.
-/

namespace Panorama

/-- Resampled rows have a byte for every channel of every pixel of the new size. -/
theorem Resampling.length_resample (rows : Array (Array UInt8)) (channels : Nat)
    (old new : Canvas) : (resample rows channels old new).length
      = new.width.toNat * channels * new.height.toNat := by
  unfold resample
  simp only [List.length_flatMap, List.length_map, List.length_range, List.map_const',
    List.sum_replicate_nat, Array.length_toList, Array.size_map, Array.size_range]
  exact Nat.mul_comm ..

/-- A plane without padding has exactly the bytes of its pixels. -/
def Plane.IsTight (plane : Plane) (channels : Nat) : Prop :=
  plane.stride.toNat = plane.rowBytes channels ∧
    plane.data.size = plane.rowBytes channels * plane.height.toNat

/-- Rows of a well-formed plane have together the bytes of as many rows without padding. -/
theorem Plane.WellFormed.length_rows {plane : Plane} {channels y count : Nat}
    (h : plane.WellFormed channels) {rows : List (List UInt8)}
    (hrows : plane.rowsFrom? channels y count = some rows)
    (hend : y + count ≤ plane.height.toNat) :
    rows.flatten.length = plane.rowBytes channels * count := by
  induction count generalizing y rows with
  | zero =>
      cases hrows
      rfl
  | succ count ih =>
      have hrow := h.row_end_le (y := y) (by omega)
      rw [rowsFrom?, h.row (by omega)] at hrows
      simp only [Option.bind_eq_bind, Option.bind_some, Option.bind_eq_some_iff] at hrows
      obtain ⟨rest, hrest, hresult⟩ := hrows
      cases hresult
      rw [List.flatten_cons, List.length_append, ih hrest (by omega), Array.length_toList,
        Array.size_extract, Nat.min_eq_left hrow, Nat.add_sub_cancel_left, Nat.mul_succ,
        Nat.add_comm]

namespace Frame

variable {format : PixelFormat} {size : Canvas} {frame target : Frame}

/-- A well-formed plane can be brought to any size, and then has the bytes of that size. -/
theorem exists_resize_plane {plane : Plane} (h : plane.WellFormed format.channels)
    (size : Canvas) : ∃ bytes, resizePlane format plane size = some bytes ∧
      bytes.length = size.width.toNat * format.channels * size.height.toNat := by
  obtain ⟨rows, hrows⟩ := h.exists_rows_from (y := 0) (Nat.zero_add plane.height.toNat).le
  unfold resizePlane
  rw [Plane.rows?, hrows]
  show ∃ bytes, (if plane.size = size then some rows.flatten else _) = some bytes ∧ _
  split
  · rename_i hsize
    subst hsize
    exact ⟨_, rfl, h.length_rows hrows (Nat.zero_add _).le⟩
  · exact ⟨_, rfl, Resampling.length_resample ..⟩

/-- A well-formed frame has a preview of every size that there is memory for, and this is a
well-formed frame without padding. -/
theorem WellFormed.exists_preview (h : frame.WellFormed)
    (hblank : blank frame.format size = .ok target) :
    ∃ shown, frame.preview size = .ok shown ∧ shown.WellFormed ∧
      (shown.format = frame.format ∧ shown.size = size) ∧
        ∀ plane ∈ shown.planes, plane.IsTight shown.format.channels := by
  obtain ⟨hsize, _, hplanes⟩ := blank_planes hblank
  obtain ⟨htarget, hformat, hsame⟩ := blank_ok hblank
  have hfill (pair : Plane × Plane) (hpair : pair ∈ frame.planes.zip target.planes) :
      ∃ filled, (do
          let bytes ← resizePlane frame.format pair.1 pair.2.size
          return { pair.2 with data := bytes.toArray } : Option Plane) = some filled ∧
        filled.size = pair.2.size ∧ filled.WellFormed frame.format.channels ∧
          filled.IsTight frame.format.channels := by
    obtain ⟨index, hindex⟩ := List.getElem?_of_mem hpair
    obtain ⟨hsource, hplane⟩ := List.getElem?_zip_eq_some.mp hindex
    obtain ⟨tight, htight, hblankPlane⟩ := hplanes index pair.2 hplane
    obtain ⟨bytes, hbytes, hlength⟩ :=
      exists_resize_plane (h.2.2 index pair.1 hsource).2 pair.2.size
    rw [hbytes, hblankPlane]
    have hdata : bytes.toArray.size = tight.bytes := by
      obtain ⟨_, _, rfl⟩ := tight_plane_eq_ok_iff.mp htight
      rw [hblankPlane] at hlength
      exact hlength
    -- The bytes take the place of as many "no signal" bytes.
    refine ⟨tight.fill bytes.toArray, rfl, rfl, (well_formed_of_tight hsize htight hdata).2, ?_⟩
    obtain ⟨hrow, _, rfl⟩ := tight_plane_eq_ok_iff.mp htight
    exact ⟨UInt64.toNat_ofNat_of_lt' hrow, hdata⟩
  obtain ⟨planes, hfilled, hall⟩ := Failing.exists_map_related hfill
  refine ⟨{ target with planes }, ?_, ⟨?_, ?_, ?_⟩, ⟨hformat, hsame⟩, fun plane hplane ↦ ?_⟩
  · unfold preview
    simp only [Failing.bind_eq_ok_iff, Failing.of_result_eq_ok_iff, Failing.of_option_eq_ok_iff]
    exact ⟨(), hsize, target, hblank, planes, hfilled, rfl⟩
  · rw [hformat, hsame]
    exact hsize
  · rw [← hall.length_eq, List.length_zip, h.2.1, htarget.2.1, hformat, Nat.min_self]
  · intro index plane hplane
    obtain ⟨pair, hpair, hshape, hformed, _⟩ := Failing.exists_of_forall₂ hall.flip hplane
    obtain ⟨_, hblankPlane⟩ := List.getElem?_zip_eq_some.mp hpair
    refine ⟨hshape.trans (htarget.2.2 index pair.2 hblankPlane).1, ?_⟩
    rw [hformat]
    exact hformed
  · obtain ⟨index, hindex⟩ := List.getElem?_of_mem hplane
    obtain ⟨_, _, _, _, htight⟩ := Failing.exists_of_forall₂ hall.flip hindex
    rw [hformat]
    exact htight

/-- There was memory for every preview that was made. -/
theorem blank_of_preview {shown : Frame} (h : frame.preview size = .ok shown) :
    ∃ target, blank frame.format size = .ok target := by
  unfold preview at h
  simp only [Failing.bind_eq_ok_iff, Failing.of_result_eq_ok_iff] at h
  obtain ⟨_, _, target, htarget, _⟩ := h
  exact ⟨target, htarget⟩

end Frame

end Panorama
