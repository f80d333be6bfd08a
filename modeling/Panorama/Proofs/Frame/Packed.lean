import Panorama.Frame.Packed
import Panorama.Proofs.Frame.Fresh

/-!
# Sizes of packed frames

The bytes of a packed frame are those of its planes without padding. If there is memory for every
plane, a 64-bit word counts the bytes of all of them, since the chroma planes are small. A
well-formed frame takes up at least the bytes that it has when it is packed.
-/

namespace Panorama

namespace Frame

variable {format : PixelFormat} {size : Canvas} {frame : Frame} {index : Nat}
  {planes : List TightPlane}

/-- The bytes of a tight plane are those that its format says. -/
theorem plane_bytes_of_tight {plane : TightPlane}
    (h : tightPlane format size index = .ok plane) :
    format.planeBytes size index = .ok plane.bytes := by
  obtain ⟨hrow, hbytes, rfl⟩ := tight_plane_eq_ok_iff.mp h
  have hlimit : Memory.bufferLimit < UInt64.size := by decide
  refine Failing.bind_eq_ok_iff.mpr ⟨_, PixelFormat.checked_product_eq_ok_iff.mpr ⟨hrow, rfl⟩, ?_⟩
  exact PixelFormat.checked_product_eq_ok_iff.mpr ⟨hbytes.trans hlimit, rfl⟩

/-- Bytes of a plane without padding. -/
def tightBytes (format : PixelFormat) (size : Canvas) (index : Nat) : Nat :=
  tightRow format size index * (format.planeSize index size).height.toNat

/-- A plane has at most the bytes of the first one, and a chroma plane of half the resolution at
most a quarter of them. -/
theorem tight_bytes_le (format : PixelFormat) (size : Canvas) (index : Nat) :
    (if 0 < index ∧ format.isChromaSubsampled then 4 else 1) * tightBytes format size index
      ≤ tightBytes format size 0 := by
  have hfirst : (format.subsampling 0).toNat = 1 := by
    rw [PixelFormat.subsampling_to_nat, if_neg (by simp)]
  have hsecond := format.subsampling_to_nat index
  simp only [tightBytes, tightRow, format.plane_size_to_nat, hfirst, hsecond, Nat.div_one]
  split
  · have hwidth := Nat.div_mul_le_self size.width.toNat 2
    have hheight := Nat.div_mul_le_self size.height.toNat 2
    calc 4 * (size.width.toNat / 2 * format.channels * (size.height.toNat / 2))
        = size.width.toNat / 2 * 2 * format.channels * (size.height.toNat / 2 * 2) := by ring
      _ ≤ size.width.toNat * format.channels * size.height.toNat :=
          Nat.mul_le_mul (Nat.mul_le_mul_right _ hwidth) hheight
  · rw [Nat.one_mul, Nat.div_one, Nat.div_one]

/-- The bytes of the tight planes of an accepted size. -/
theorem bytes_of_tight_planes (h : tightPlanes format size = .ok planes) :
    planes.map TightPlane.bytes = (List.range format.planeCount).map (tightBytes format size) := by
  rw [← List.forall₂_eq_eq_eq, List.forall₂_map_left_iff, List.forall₂_map_right_iff]
  refine (List.Forall₂.flip (tight_planes_eq_ok_iff.mp h).2).imp fun plane index hplane ↦ ?_
  obtain ⟨-, -, rfl⟩ := tight_plane_eq_ok_iff.mp hplane
  rfl

/-- A 64-bit word counts the bytes of all planes, since the chroma planes are small. -/
theorem tight_bytes_lt (h : tightPlanes format size = .ok planes) :
    (planes.map TightPlane.bytes).sum < UInt64.size := by
  obtain ⟨-, hplanes⟩ := tight_planes_eq_ok_iff.mp h
  have hfirst : tightBytes format size 0 < Memory.bufferLimit := by
    have hcount : 0 < format.planeCount := by cases format <;> decide
    obtain ⟨plane, -, hplane⟩ := Failing.exists_of_forall₂ hplanes (List.getElem?_range hcount)
    obtain ⟨-, hmemory, -⟩ := tight_plane_eq_ok_iff.mp hplane
    exact hmemory
  have hlimit : Memory.bufferLimit * 2 = UInt64.size := by decide
  have hsecond := tight_bytes_le format size 1
  have hthird := tight_bytes_le format size 2
  rw [bytes_of_tight_planes h]
  cases format with
  | gray8 | rgb24 =>
      show tightBytes _ size 0 + 0 < UInt64.size
      omega
  | yuv420p | yuvj420p =>
      rw [if_pos ⟨by decide, rfl⟩] at hsecond hthird
      show tightBytes _ size 0 + (tightBytes _ size 1 + (tightBytes _ size 2 + 0)) < UInt64.size
      omega

/-- Bytes of planes are added up as long as a 64-bit word counts them. -/
theorem add_plane_bytes {indices : List Nat} (h : List.Forall₂
    (fun index plane ↦ tightPlane format size index = .ok plane) indices planes) (total : Nat)
    (hsum : total + (planes.map TightPlane.bytes).sum < UInt64.size) :
    format.addPlaneBytes size total indices
      = .ok (total + (planes.map TightPlane.bytes).sum) := by
  induction h generalizing total with
  | nil => rfl
  | cons hplane _ ih =>
      rw [List.map_cons, List.sum_cons, ← Nat.add_assoc] at hsum ⊢
      refine Failing.bind_eq_ok_iff.mpr ⟨_, plane_bytes_of_tight hplane, ?_⟩
      rw [if_pos (by omega), ih _ hsum]

/-- The bytes of a packed frame are those of its tight planes. -/
theorem frame_bytes_of_tight (h : tightPlanes format size = .ok planes) :
    format.frameBytes size = .ok (planes.map TightPlane.bytes).sum := by
  have hadd := add_plane_bytes (tight_planes_eq_ok_iff.mp h).2 0
    ((Nat.zero_add _).trans_lt (tight_bytes_lt h))
  rwa [Nat.zero_add] at hadd

/-- Bytes that a frame takes up, padding included. -/
def dataBytes (frame : Frame) : Nat := (frame.planes.map (·.data.size)).sum

/-- The packed bytes of a well-formed frame are counted, and the frame takes up no fewer. -/
theorem WellFormed.frame_bytes (h : frame.WellFormed) : ∃ bytes,
    frame.format.frameBytes frame.size = .ok bytes ∧ bytes ≤ frame.dataBytes := by
  obtain ⟨_, hblank⟩ := h.exists_blank
  obtain ⟨planes, hplanes, -⟩ := Failing.bind_eq_ok_iff.mp hblank
  refine ⟨_, frame_bytes_of_tight hplanes, ?_⟩
  have hlength := (tight_planes_eq_ok_iff.mp hplanes).2.length_eq
  rw [List.length_range, ← h.2.1] at hlength
  have hplane (index : Nat) (hindex : index < planes.length)
      (hinside : index < frame.planes.length) :
      planes[index].bytes ≤ frame.planes[index].data.size := by
    obtain ⟨tight, htight, hbytes⟩ := h.exists_tight_plane (List.getElem?_eq_getElem hinside)
    have hsame := tight_plane_of_tight_planes hplanes (List.getElem?_eq_getElem hindex)
    rw [htight, Except.ok.injEq] at hsame
    rwa [← hsame]
  refine List.Forall₂.sum_le_sum ?_
  rw [List.forall₂_map_left_iff, List.forall₂_map_right_iff, List.forall₂_iff_get]
  exact ⟨hlength.symm, hplane⟩

end Frame

end Panorama
