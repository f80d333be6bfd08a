import Panorama.Proofs.Frame.Reading

/-!
# Raw streams split into frames

A raw stream is read frame by frame until it is out of frames. However its bytes arrive, the frame
that a call returns is the one with the next bytes as its packed form. The stream ends cleanly in
front of a frame only, and a failure is passed on wherever it comes. Read `read_packed_splits`
first.
-/

namespace Panorama.Frame

variable {format : PixelFormat} {size : Canvas} {planes : List TightPlane}
  {source : Source} {count index : Nat}

/-- The stream that is left once `count` frames have been asked for, whatever has come of it. -/
def leftBy (format : PixelFormat) (size : Canvas) (source : Source) : Nat → Source
  | 0 => source
  | count + 1 => (readPacked format size (leftBy format size source count)).2

/-- What comes of asking for a frame after `index` others. -/
def readAt (format : PixelFormat) (size : Canvas) (source : Source) (index : Nat) :
    Result (Option Frame) :=
  (readPacked format size (leftBy format size source index)).1

/-- A frame is read from a stream that has enough bytes. -/
theorem read_packed_whole (hplanes : tightPlanes format size = .ok planes)
    (hbytes : (planes.map TightPlane.bytes).sum = count) (hcount : count ≤ source.bytes.length) :
    ∃ frame next, ofPacked format size (source.bytes.take count) = .ok frame ∧
      readPacked format size source = (.ok (some frame), next) ∧
        next.bytes = source.bytes.drop count ∧ next.failure = source.failure := by
  have hlength : (source.bytes.take count).length = (planes.map TightPlane.bytes).sum := by
    rw [List.length_take, hbytes, Nat.min_eq_left hcount]
  have hframe := of_packed_eq_ok_iff.mpr ⟨planes, hplanes, hlength, rfl⟩
  obtain ⟨next, hnext⟩ := read_packed_front hframe (List.take_append_drop count source.bytes).symm
  exact ⟨_, next, hframe, hnext⟩

/-- As long as there are enough bytes, every frame that is asked for takes its own. -/
theorem left_by_bytes (hplanes : tightPlanes format size = .ok planes)
    (hbytes : (planes.map TightPlane.bytes).sum = count)
    (hcount : index * count ≤ source.bytes.length) :
    (leftBy format size source index).bytes = source.bytes.drop (index * count) ∧
      (leftBy format size source index).failure = source.failure := by
  induction index with
  | zero => exact ⟨by rw [Nat.zero_mul]; rfl, rfl⟩
  | succ index ih =>
      rw [Nat.succ_mul] at hcount ⊢
      obtain ⟨hleft, hsame⟩ := ih (by omega)
      have hroom : count ≤ (leftBy format size source index).bytes.length := by
        rw [hleft, List.length_drop]
        omega
      obtain ⟨_, next, _, hread, hrest, hfailure⟩ := read_packed_whole hplanes hbytes hroom
      unfold leftBy
      rw [hread]
      exact ⟨by rw [hrest, hleft, List.drop_drop], hfailure.trans hsame⟩

/-- A frame that the stream holds in full is returned by the call of its position. -/
theorem read_at_whole (hplanes : tightPlanes format size = .ok planes)
    (hbytes : (planes.map TightPlane.bytes).sum = count)
    (hcount : (index + 1) * count ≤ source.bytes.length) :
    ∃ frame, ofPacked format size ((source.bytes.drop (index * count)).take count) = .ok frame ∧
      readAt format size source index = .ok (some frame) := by
  rw [Nat.succ_mul] at hcount
  have hfront : index * count ≤ source.bytes.length := by omega
  obtain ⟨hleft, _⟩ := left_by_bytes hplanes hbytes hfront
  have hroom : count ≤ (leftBy format size source index).bytes.length := by
    rw [hleft, List.length_drop]
    omega
  obtain ⟨frame, next, hframe, hread, _⟩ := read_packed_whole hplanes hbytes hroom
  rw [hleft] at hframe
  exact ⟨frame, hframe, by rw [readAt, hread]⟩

/-- Behind the whole frames of a stream there is none, or one that is cut off. -/
theorem read_at_last (hplanes : tightPlanes format size = .ok planes)
    (hbytes : (planes.map TightPlane.bytes).sum = count) (hpos : 0 < count) :
    readAt format size source (source.bytes.length / count)
      = cutOff source.failure (source.bytes.length % count != 0) := by
  have hmod := Nat.mod_add_div' source.bytes.length count
  have hover := Nat.mod_lt source.bytes.length hpos
  obtain ⟨hleft, hfailure⟩ := left_by_bytes hplanes hbytes (Nat.div_mul_le_self _ _)
  have hlength : (leftBy format size source (source.bytes.length / count)).bytes.length
      = source.bytes.length % count := by
    rw [hleft, List.length_drop]
    omega
  have hbegun : (!(leftBy format size source (source.bytes.length / count)).bytes.isEmpty)
      = (source.bytes.length % count != 0) := by
    rw [← hlength]
    cases (leftBy format size source (source.bytes.length / count)).bytes <;> rfl
  rw [readAt, read_packed_short hplanes (by omega), hfailure, hbegun]

/-- A raw stream splits into frames exactly, in whatever pieces it arrives. For a format and a size
of which there are frames, every frame that the stream holds in full is returned by the call of its
position. The call behind the last one returns the failure of the stream if it has one. If not, it
finds no frame where the bytes are those of whole frames, and a frame that is cut off everywhere
else, also between two planes. -/
theorem read_packed_splits {fresh : Frame} (h : blank format size = .ok fresh) :
    ∃ count, format.frameBytes size = .ok count ∧ 0 < count ∧ ∀ source : Source,
      (∀ index, (index + 1) * count ≤ source.bytes.length → ∃ frame,
        ofPacked format size ((source.bytes.drop (index * count)).take count) = .ok frame ∧
          readAt format size source index = .ok (some frame)) ∧
      (source.failure = none → count ∣ source.bytes.length →
        readAt format size source (source.bytes.length / count) = .ok none) ∧
      (source.failure = none → ¬count ∣ source.bytes.length →
        readAt format size source (source.bytes.length / count) = .error .truncatedFrame ∧
          Error.truncatedFrame.message = "io error: truncated raw frame") ∧
      ∀ failure, source.failure = some failure →
        readAt format size source (source.bytes.length / count) = .error (.io failure) := by
  obtain ⟨planes, hplanes, _⟩ := Failing.bind_eq_ok_iff.mp h
  generalize hbytes : (planes.map TightPlane.bytes).sum = count
  have hpos : 0 < count := by
    obtain ⟨first, others, rfl, hfirst⟩ := tight_planes_cons hplanes
    rw [List.map_cons, List.sum_cons] at hbytes
    omega
  refine ⟨count, by rw [frame_bytes_of_tight hplanes, hbytes], hpos, ?_⟩
  intro source
  have hlast : readAt format size source (source.bytes.length / count)
      = cutOff source.failure (source.bytes.length % count != 0) :=
    read_at_last hplanes hbytes hpos
  refine ⟨?_, ?_, ?_, ?_⟩
  · intro index hindex
    exact read_at_whole hplanes hbytes hindex
  · intro hfailure hwhole
    rw [hlast, hfailure, Nat.mod_eq_zero_of_dvd hwhole]
    rfl
  · intro hfailure hpart
    rw [Nat.dvd_iff_mod_eq_zero] at hpart
    refine ⟨?_, rfl⟩
    rw [hlast, hfailure, bne_iff_ne.mpr hpart]
    rfl
  · intro failure hfailure
    rw [hlast, hfailure]
    rfl

/-- Ten bytes in odd pieces hold a frame of six bytes, and behind it one that stops at the border
between its first two planes. With two bytes more they hold two frames and nothing else, unless the
stream fails there. -/
theorem two_by_two_splits :
    readAt .yuv420p ⟨2, 2⟩ ⟨[[1], [2, 3, 4, 5, 6, 7], [], [8, 9, 10]], none⟩ 1
      = .error .truncatedFrame ∧
    readAt .yuv420p ⟨2, 2⟩ ⟨[[1, 2, 3], [4, 5, 6, 7, 8, 9, 10, 11], [12]], none⟩ 1
      = .ok (some ⟨.yuv420p, ⟨2, 2⟩,
          [⟨2, 2, 2, #[7, 8, 9, 10]⟩, ⟨1, 1, 1, #[11]⟩, ⟨1, 1, 1, #[12]⟩]⟩) ∧
    readAt .yuv420p ⟨2, 2⟩ ⟨[[1, 2, 3], [4, 5, 6, 7, 8, 9, 10, 11], [12]], none⟩ 2 = .ok none ∧
    readAt .yuv420p ⟨2, 2⟩ ⟨[[1, 2, 3], [4, 5, 6, 7, 8, 9, 10, 11], [12]],
      some (.reported "unplugged")⟩ 2 = .error (.io (.reported "unplugged")) := by
  have hblank : blank .yuv420p ⟨2, 2⟩ = .ok ⟨.yuv420p, ⟨2, 2⟩,
      [⟨2, 2, 2, #[0, 0, 0, 0]⟩, ⟨1, 1, 1, #[128]⟩, ⟨1, 1, 1, #[128]⟩]⟩ := by
    decide +kernel
  obtain ⟨count, hcount, _, hsplits⟩ := read_packed_splits hblank
  have hsix : count = 6 := Except.ok.inj (hcount.symm.trans (by decide +kernel))
  subst hsix
  refine ⟨?_, ?_, ?_, ?_⟩
  · exact ((hsplits _).2.2.1 rfl (by decide)).1
  · obtain ⟨frame, hframe, hread⟩ :=
      (hsplits ⟨[[1, 2, 3], [4, 5, 6, 7, 8, 9, 10, 11], [12]], none⟩).1 1 (by decide)
    have hsecond : ofPacked .yuv420p ⟨2, 2⟩ [7, 8, 9, 10, 11, 12] = .ok ⟨.yuv420p, ⟨2, 2⟩,
        [⟨2, 2, 2, #[7, 8, 9, 10]⟩, ⟨1, 1, 1, #[11]⟩, ⟨1, 1, 1, #[12]⟩]⟩ := by
      decide +kernel
    cases hframe.symm.trans hsecond
    exact hread
  · exact (hsplits _).2.1 rfl (by decide)
  · exact (hsplits _).2.2.2 _ rfl

end Panorama.Frame
