import Panorama.Proofs.Frame.Packed
import Panorama.Proofs.Stream

/-!
# Frames one after the other

A raw stream of whole frames is read frame by frame. Each of them is the frame with the next bytes
as its packed form, and behind the last one there is none. Where the bytes end inside a frame, it is
cut off, whichever of its planes they end in (`read_packed_short`).
-/

namespace Panorama.Frame

variable {α β : Type} {format : PixelFormat} {size : Canvas} {frame : Frame} {frames : List Frame}
  {planes : List TightPlane} {chunk bytes rest : List UInt8} {source : Source} {index : Nat}

/-- Bytes are the packed forms of frames, one after the other. -/
inductive Stream (format : PixelFormat) (size : Canvas) : List Frame → List UInt8 → Prop where
  | nil : Stream format size [] []
  | cons {frame : Frame} {frames : List Frame} {chunk bytes : List UInt8}
      (first : ofPacked format size chunk = .ok frame) (others : Stream format size frames bytes) :
      Stream format size (frame :: frames) (chunk ++ bytes)

/-- What comes of a frame that is not all there, where `begun` says whether some of it is. -/
def cutOff (failure : Option DeviceFailure) (begun : Bool) : Result (Option α) :=
  match failure with
  | some failure => .error (.io failure)
  | none => if begun then .error .truncatedFrame else .ok none

/-- A plane of an accepted size has a byte. -/
theorem tight_bytes_pos (h : format.checkSize size = .ok ()) (index : Nat) :
    0 < tightBytes format size index := by
  obtain ⟨hwidth, hheight⟩ := PixelFormat.plane_size_pos h index
  exact Nat.mul_pos (Nat.mul_pos hwidth format.channels_pos) hheight

/-- Every tight plane has a byte. -/
theorem bytes_pos_of_tight (h : tightPlanes format size = .ok planes) :
    ∀ plane ∈ planes, 0 < plane.bytes := by
  intro plane hplane
  have hbytes : plane.bytes ∈ planes.map TightPlane.bytes := List.mem_map_of_mem hplane
  rw [bytes_of_tight_planes h] at hbytes
  obtain ⟨index, _, hindex⟩ := List.mem_map.mp hbytes
  rw [← hindex]
  exact tight_bytes_pos (tight_planes_eq_ok_iff.mp h).1 index

/-- A frame with planes has a first one, and that has a byte. -/
theorem tight_planes_cons (h : tightPlanes format size = .ok planes) :
    ∃ first others, planes = first :: others ∧ 0 < first.bytes := by
  cases planes with
  | nil =>
      have hlength := (tight_planes_eq_ok_iff.mp h).2.length_eq
      rw [List.length_range] at hlength
      cases format <;> cases hlength
  | cons first others =>
      exact ⟨first, others, rfl, bytes_pos_of_tight h first List.mem_cons_self⟩

/-- A frame is made of as many bytes as its planes have. -/
theorem of_packed_eq_ok_iff : ofPacked format size chunk = .ok frame ↔
    ∃ planes, tightPlanes format size = .ok planes ∧
      chunk.length = (planes.map TightPlane.bytes).sum ∧
        frame = ⟨format, size, fillPlanes planes chunk⟩ := by
  unfold ofPacked
  constructor
  · intro h
    obtain ⟨expected, hexpected, h⟩ := Failing.bind_eq_ok_iff.mp h
    split at h
    · cases h
    · rename_i hlength
      obtain ⟨planes, hplanes, h⟩ := Failing.bind_eq_ok_iff.mp h
      cases h
      rw [frame_bytes_of_tight hplanes] at hexpected
      cases hexpected
      exact ⟨planes, hplanes, not_not.mp hlength, rfl⟩
  · rintro ⟨planes, hplanes, hlength, rfl⟩
    refine Failing.bind_eq_ok_iff.mpr ⟨_, frame_bytes_of_tight hplanes, ?_⟩
    rw [if_neg (not_not.mpr hlength)]
    exact Failing.bind_eq_ok_iff.mpr ⟨planes, hplanes, rfl⟩

/-- A packed frame has a byte. -/
theorem chunk_length_pos (h : ofPacked format size chunk = .ok frame) : 0 < chunk.length := by
  obtain ⟨planes, hplanes, hlength, _⟩ := of_packed_eq_ok_iff.mp h
  obtain ⟨first, others, rfl, hfirst⟩ := tight_planes_cons hplanes
  rw [hlength, List.map_cons, List.sum_cons]
  omega

/-- A stream has at least as many bytes as frames. -/
theorem Stream.length_le (h : Stream format size frames bytes) :
    frames.length ≤ bytes.length := by
  induction h with
  | nil => exact Nat.le_refl 0
  | cons first _ ih =>
      have hchunk := chunk_length_pos first
      rw [List.length_cons, List.length_append]
      omega

/-- Planes are filled with the bytes at the front of a stream. -/
theorem read_planes_ok (begun : Bool) (hbytes : source.bytes = chunk ++ rest)
    (hlength : chunk.length = (planes.map TightPlane.bytes).sum) :
    ∃ next, readPlanes begun planes source = (.ok (some (fillPlanes planes chunk)), next) ∧
      next.bytes = rest ∧ next.failure = source.failure := by
  induction planes generalizing source chunk begun with
  | nil =>
      rw [List.map_nil, List.sum_nil, List.length_eq_zero_iff] at hlength
      exact ⟨source, rfl, by rw [hbytes, hlength, List.nil_append], rfl⟩
  | cons plane planes ih =>
      rw [List.map_cons, List.sum_cons] at hlength
      have htaken : (source.fill plane.bytes).bytes = chunk.take plane.bytes := by
        rw [Source.fill_bytes, hbytes, List.take_append_of_le_length (by omega)]
      have hleft : (source.fill plane.bytes).source.bytes = chunk.drop plane.bytes ++ rest := by
        rw [Source.fill_source_bytes, hbytes, List.drop_append_of_le_length (by omega)]
      obtain ⟨next, hread, hrest, hfailure⟩ := ih true hleft (by rw [List.length_drop]; omega)
      refine ⟨next, ?_, hrest, hfailure.trans (Source.fill_source_failure _ _)⟩
      unfold readPlanes
      dsimp only
      rw [if_pos (by rw [htaken, List.length_take]; omega), hread, htaken]
      rfl

/-- Nothing can be made of a frame that is not all there. -/
@[simp] theorem cut_off_map (change : α → β) (failure : Option DeviceFailure) (begun : Bool) :
    (cutOff failure begun).map (·.map change) = cutOff failure begun := by
  cases failure with
  | some failure => rfl
  | none => cases begun <;> rfl

/-- Planes are not filled from a stream that is too short for them, and nothing of that depends on
which plane it breaks off in. -/
theorem read_planes_short (begun : Bool) (hplanes : ∀ plane ∈ planes, 0 < plane.bytes)
    (hshort : source.bytes.length < (planes.map TightPlane.bytes).sum) :
    (readPlanes begun planes source).1
      = cutOff source.failure (begun || !source.bytes.isEmpty) := by
  induction planes generalizing source begun with
  | nil => exact absurd hshort (Nat.not_lt_zero _)
  | cons plane planes ih =>
      obtain ⟨hplane, hothers⟩ := List.forall_mem_cons.mp hplanes
      rw [List.map_cons, List.sum_cons] at hshort
      unfold readPlanes
      dsimp only
      rw [source.fill_bytes, List.length_take]
      by_cases hfull : plane.bytes ≤ source.bytes.length
      · -- This plane is filled, so that the frame has begun and the stream breaks off later.
        have hleft : (source.fill plane.bytes).source.bytes.length
            < (planes.map TightPlane.bytes).sum := by
          rw [source.fill_source_bytes, List.length_drop]
          omega
        have hbegun : source.bytes.isEmpty = false := by
          rw [List.isEmpty_eq_false_iff, ← List.length_pos_iff]
          omega
        rw [if_pos (Nat.min_eq_left hfull), ih true hothers hleft, source.fill_source_failure,
          hbegun]
        simp
      · have hbelow : source.bytes.length < plane.bytes := Nat.lt_of_not_le hfull
        rw [if_neg (by omega), Source.fill_failure_of_short hbelow,
          List.take_of_length_le hbelow.le]
        unfold cutOff
        cases source.failure with
        | some failure => rfl
        | none => cases begun || !source.bytes.isEmpty <;> rfl

/-- No frame is read from a stream that has not enough bytes. -/
theorem read_packed_short (hplanes : tightPlanes format size = .ok planes)
    (hshort : source.bytes.length < (planes.map TightPlane.bytes).sum) :
    (readPacked format size source).1 = cutOff source.failure !source.bytes.isEmpty := by
  unfold readPacked
  rw [hplanes]
  dsimp only
  rw [read_planes_short false (bytes_pos_of_tight hplanes) hshort, cut_off_map, Bool.false_or]

/-- The frame at the front of a stream is read, and the bytes behind it are left. -/
theorem read_packed_front (h : ofPacked format size chunk = .ok frame)
    (hbytes : source.bytes = chunk ++ rest) :
    ∃ next, readPacked format size source = (.ok (some frame), next) ∧ next.bytes = rest ∧
      next.failure = source.failure := by
  obtain ⟨planes, hplanes, hlength, rfl⟩ := of_packed_eq_ok_iff.mp h
  obtain ⟨next, hread, hrest, hfailure⟩ := read_planes_ok false hbytes hlength
  refine ⟨next, ?_, hrest, hfailure⟩
  unfold readPacked
  rw [hplanes]
  dsimp only
  rw [hread]
  rfl

/-- The first frame of a stream is read, and the others are left. -/
theorem Stream.read_cons (h : Stream format size (frame :: frames) source.bytes) :
    ∃ next, readPacked format size source = (.ok (some frame), next) ∧
      Stream format size frames next.bytes ∧ next.failure = source.failure := by
  generalize hbytes : source.bytes = bytes at h
  cases h with
  | cons first others =>
      obtain ⟨next, hread, rfl, hfailure⟩ := read_packed_front first hbytes
      exact ⟨next, hread, others, hfailure⟩

/-- Behind the last frame of a stream that does not fail there is none. -/
theorem Stream.read_nil (h : Stream format size [] source.bytes) (hfailure : source.failure = none)
    (hplanes : tightPlanes format size = .ok planes) :
    ∃ next, readPacked format size source = (.ok none, next) := by
  generalize hbytes : source.bytes = bytes at h
  cases h
  obtain ⟨first, others, rfl, hfirst⟩ := tight_planes_cons hplanes
  have hshort : source.bytes.length < ((first :: others).map TightPlane.bytes).sum := by
    rw [hbytes, List.map_cons, List.sum_cons, List.length_nil]
    omega
  have hread := read_packed_short hplanes hshort
  rw [hfailure, hbytes] at hread
  exact ⟨_, Prod.ext hread rfl⟩

end Panorama.Frame
