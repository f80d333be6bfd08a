import Panorama.Proofs.Frame.Preview
import Panorama.Proofs.Frame.Reading

/-!
# Packed frames and their pixels

The packed form of a frame is its pixels: one plane after the other, each from top to bottom, every
row from left to right, with the channels of a pixel side by side (`Frame.pixelRows`). Strides and
padding have no part in it. The rows are written one by one until one is refused, and the tight
frame that is made of them shows the same pixels. Read `packed_is_pixels` first.
-/

namespace Panorama

/-! ### Writing one by one -/

namespace Sink

variable {sink : Sink} {front back pieces : List (List UInt8)} {bytes more : List UInt8}

/-- The sink with more bytes written to it. -/
def after (sink : Sink) (bytes : List UInt8) : Sink :=
  { sink with written := sink.written ++ bytes }

/-- The sink refuses none of several writes, one after the other. -/
def Takes (sink : Sink) : List (List UInt8) → Prop
  | [] => True
  | piece :: pieces => sink.refusal sink.written piece = none ∧ (sink.after piece).Takes pieces

/-- Several writes, one after the other, until one is refused. -/
def writeEach : List (List UInt8) → Sink → Outcome Unit × Sink
  | [], sink => (.ok (), sink)
  | piece :: pieces, sink =>
    match sink.write piece with
    | .error error => (.error (.refused error), sink)
    | .ok sink => writeEach pieces sink

/-- Writing no bytes changes nothing. -/
@[simp] theorem after_nil (sink : Sink) : sink.after [] = sink := by
  simp [after]

/-- Bytes are written behind each other. -/
@[simp] theorem after_after (sink : Sink) (bytes more : List UInt8) :
    (sink.after bytes).after more = sink.after (bytes ++ more) := by
  have hwritten : sink.written ++ bytes ++ more = sink.written ++ (bytes ++ more) := by
    rw [← Array.toList_inj]
    simp
  rw [after, after, after, hwritten]

/-- Writes in a row go on as long as none is refused. -/
theorem write_each_append (front back : List (List UInt8)) (sink : Sink) :
    writeEach (front ++ back) sink = match writeEach front sink with
      | (.ok (), sink) => writeEach back sink
      | failed => failed := by
  induction front generalizing sink with
  | nil => rfl
  | cons piece pieces ih =>
      rw [List.cons_append, writeEach, writeEach]
      cases sink.write piece with
      | error error => rfl
      | ok sink => exact ih sink

/-- A sink that refuses none of the writes holds all of the bytes. -/
theorem Takes.write_each (h : sink.Takes pieces) :
    writeEach pieces sink = (.ok (), sink.after pieces.flatten) := by
  induction pieces generalizing sink with
  | nil => rw [List.flatten_nil, after_nil, writeEach]
  | cons piece pieces ih =>
      obtain ⟨hpiece, hothers⟩ := h
      rw [writeEach, write, hpiece, List.flatten_cons, ← after_after]
      exact ih hothers

/-- A sink that never refuses takes everything. -/
theorem takes_of_never (h : ∀ written offered, sink.refusal written offered = none) :
    sink.Takes pieces := by
  induction pieces generalizing sink with
  | nil => exact trivial
  | cons piece pieces ih => exact ⟨h _ _, ih h⟩

/-- A sink that refuses one of the writes holds the bytes of those in front of it. -/
theorem write_each_refused (h : ¬sink.Takes pieces) :
    ∃ front piece back failure, pieces = front ++ piece :: back ∧ sink.Takes front ∧
      (sink.after front.flatten).refusal (sink.after front.flatten).written piece = some failure ∧
        writeEach pieces sink = (.error (.refused (.io failure)), sink.after front.flatten) := by
  induction pieces generalizing sink with
  | nil => exact absurd trivial h
  | cons piece pieces ih =>
      cases hpiece : sink.refusal sink.written piece with
      | some failure =>
          refine ⟨[], piece, pieces, failure, rfl, trivial, ?_, ?_⟩
          · rwa [List.flatten_nil, after_nil]
          · rw [writeEach, write, hpiece, List.flatten_nil, after_nil]
      | none =>
          have hothers : ¬(sink.after piece).Takes pieces := by
            intro htakes
            exact h ⟨hpiece, htakes⟩
          obtain ⟨front, refused, back, failure, rfl, htakes, hrefusal, hwritten⟩ := ih hothers
          rw [after_after] at hrefusal hwritten
          refine ⟨piece :: front, refused, back, failure, rfl, ⟨hpiece, htakes⟩, hrefusal, ?_⟩
          rw [writeEach, write, hpiece]
          exact hwritten

end Sink

/-! ### Rows and their pixels -/

section Tables

variable {α β : Type} {items : List α} {first second : α → List β}

/-- A table with rows of `columns` entries is a list by position. -/
theorem table_eq_map (rows columns : Nat) (entry : Nat → β) :
    ((List.range rows).flatMap fun row ↦
        (List.range columns).map fun column ↦ entry (row * columns + column))
      = (List.range (rows * columns)).map entry := by
  induction rows with
  | zero => rw [Nat.zero_mul]; rfl
  | succ rows ih =>
      rw [List.range_succ, List.flatMap_append, ih, Nat.succ_mul, List.range_add, List.map_append,
        List.map_map, List.flatMap_singleton]
      rfl

/-- Tables with rows of the same lengths and the same entries have the same rows. -/
theorem rows_eq_of_flat_map_eq
    (hlength : ∀ item ∈ items, (first item).length = (second item).length)
    (h : items.flatMap first = items.flatMap second) :
    ∀ item ∈ items, first item = second item := by
  induction items with
  | nil => exact nofun
  | cons item items ih =>
      obtain ⟨hitem, hothers⟩ := List.forall_mem_cons.mp hlength
      rw [List.flatMap_cons, List.flatMap_cons] at h
      obtain ⟨hfirst, hrest⟩ := List.append_inj h hitem
      exact List.forall_mem_cons.mpr ⟨hfirst, ih hothers hrest⟩

end Tables

namespace Plane

variable {plane : Plane} {channels y : Nat}

/-- The pixels of a row from left to right, with the channels of each side by side. -/
def pixelRow (plane : Plane) (channels y : Nat) : List (Option UInt8) :=
  (List.range plane.width.toNat).flatMap fun x ↦
    (List.range channels).map fun channel ↦ plane.pixel? channels channel x y

/-- The pixels of a row of a well-formed plane are bytes back to back. -/
theorem WellFormed.pixel_row_eq (h : plane.WellFormed channels) (hy : y < plane.height.toNat) :
    plane.pixelRow channels y = (List.range (plane.rowBytes channels)).map fun offset ↦
      plane.data[y * plane.stride.toNat + offset]? := by
  rw [rowBytes, ← table_eq_map]
  refine List.flatMap_congr fun x hx ↦ List.map_congr_left fun channel hchannel ↦ ?_
  exact h.pixel_eq (List.mem_range.mp hx) hy (List.mem_range.mp hchannel)

/-- A row of a well-formed plane is made of its pixels. -/
theorem WellFormed.exists_row (h : plane.WellFormed channels) (hy : y < plane.height.toNat) :
    ∃ row, plane.row? channels y = some row ∧ row.map some = plane.pixelRow channels y := by
  have hend := h.row_end_le hy
  refine ⟨_, h.row hy, ?_⟩
  rw [h.pixel_row_eq hy]
  refine List.ext_getElem ?_ ?_
  · simp only [List.length_map, Array.length_toList, Array.size_extract, List.length_range]
    omega
  · intro offset hoffset hother
    rw [List.length_map, List.length_range] at hother
    rw [List.getElem_map, List.getElem_map, List.getElem_range, Array.getElem_toList,
      Array.getElem_extract, Array.getElem?_eq_getElem]

/-- The rows of a well-formed plane are made of its pixels. -/
theorem WellFormed.exists_pixel_rows (h : plane.WellFormed channels) {count : Nat}
    (hend : y + count ≤ plane.height.toNat) : ∃ rows, plane.rowsFrom? channels y count = some rows ∧
      rows.map (·.map some) = (List.range' y count).map (plane.pixelRow channels) := by
  induction count generalizing y with
  | zero => exact ⟨[], rfl, rfl⟩
  | succ count ih =>
      obtain ⟨row, hrow, hpixels⟩ := h.exists_row (y := y) (by omega)
      obtain ⟨rows, hrows, hothers⟩ := ih (y := y + 1) (by omega)
      refine ⟨row :: rows, ?_, ?_⟩
      · rw [rowsFrom?, hrow, hrows]
        rfl
      · rw [List.map_cons, hpixels, hothers, List.range'_succ, List.map_cons]

/-- The rows of a plane without padding are its bytes back to back. -/
theorem WellFormed.tight_rows (h : plane.WellFormed channels) (htight : plane.IsTight channels)
    {count : Nat} {rows : List (List UInt8)} (hend : y + count ≤ plane.height.toNat)
    (hrows : plane.rowsFrom? channels y count = some rows) :
    rows.flatten = (plane.data.extract (y * plane.rowBytes channels)
      ((y + count) * plane.rowBytes channels)).toList := by
  induction count generalizing y rows with
  | zero =>
      cases hrows
      simp
  | succ count ih =>
      rw [rowsFrom?, h.row (by omega)] at hrows
      simp only [Option.bind_eq_bind, Option.bind_some, Option.bind_eq_some_iff] at hrows
      obtain ⟨rest, hrest, hresult⟩ := hrows
      cases hresult
      rw [List.flatten_cons, ih (by omega) hrest, htight.1, ← Nat.succ_mul, ← Array.toList_append,
        Array.extract_append_extract, Nat.min_eq_left (Nat.mul_le_mul_right _ (Nat.le_succ y)),
        Nat.max_eq_right (Nat.mul_le_mul_right _ (by omega)), Nat.add_assoc, Nat.add_comm 1 count]

/-- All rows of a plane without padding are its bytes. -/
theorem WellFormed.exists_tight_rows (h : plane.WellFormed channels)
    (htight : plane.IsTight channels) :
    ∃ rows, plane.rows? channels = some rows ∧ rows.flatten = plane.data.toList := by
  have hend : 0 + plane.height.toNat ≤ plane.height.toNat := (Nat.zero_add _).le
  obtain ⟨rows, hrows⟩ := h.exists_rows_from hend
  refine ⟨rows, hrows, ?_⟩
  rw [h.tight_rows htight hend hrows, Nat.zero_mul, Nat.zero_add, Nat.mul_comm, ← htight.2,
    Array.extract_size]

end Plane

namespace Frame

variable {format : PixelFormat} {size : Canvas} {frame other : Frame} {planes : List TightPlane}
  {bytes : List UInt8} {rows : List (List UInt8)} {index : Nat}

/-- The pixels of a row of a plane, from left to right, with the channels of each side by side. -/
def pixelRow (frame : Frame) (index y : Nat) : List (Option UInt8) :=
  (List.range (frame.format.planeSize index frame.size).width.toNat).flatMap fun x ↦
    (List.range frame.format.channels).map fun channel ↦ frame.pixel? index channel x y

/-- The pixels of all rows: one plane after the other, each from top to bottom. -/
def pixelRows (frame : Frame) : List (List (Option UInt8)) :=
  (List.range frame.format.planeCount).flatMap fun index ↦
    (List.range (frame.format.planeSize index frame.size).height.toNat).map (frame.pixelRow index)

/-- The pixels of a row are those of the plane. -/
theorem pixel_row_eq {plane : Plane} (hplane : frame.planes[index]? = some plane)
    (hsize : plane.size = frame.format.planeSize index frame.size) (y : Nat) :
    frame.pixelRow index y = plane.pixelRow frame.format.channels y := by
  unfold pixelRow Plane.pixelRow
  rw [← hsize]
  simp only [pixel_eq hplane]
  rfl

/-- The rows of a well-formed frame are made of its pixels. -/
theorem WellFormed.exists_rows (h : frame.WellFormed) :
    ∃ rows, frame.rows? = some rows ∧ rows.map (·.map some) = frame.pixelRows := by
  have hplane (plane : Plane) (hmem : plane ∈ frame.planes) :
      ∃ rows, plane.rows? frame.format.channels = some rows ∧ rows.map (·.map some)
        = (List.range plane.height.toNat).map (plane.pixelRow frame.format.channels) := by
    obtain ⟨index, hindex⟩ := List.getElem?_of_mem hmem
    rw [List.range_eq_range']
    exact (h.2.2 index plane hindex).2.exists_pixel_rows (Nat.zero_add _).le
  obtain ⟨lists, hlists, hrelated⟩ := Failing.exists_map_related hplane
  refine ⟨lists.flatten, by rw [rows?, hlists]; rfl, ?_⟩
  rw [pixelRows, List.flatMap_def, List.map_flatten]
  refine congrArg List.flatten (List.ext_getElem ?_ ?_)
  · rw [List.length_map, List.length_map, List.length_range, ← hrelated.length_eq, h.2.1]
  · intro index hindex hother
    rw [List.length_map] at hindex
    have hinside : index < frame.planes.length := hrelated.length_eq ▸ hindex
    have hplane := List.getElem?_eq_getElem hinside
    obtain ⟨hsize, _⟩ := h.2.2 index _ hplane
    have hrows := hrelated.get hinside hindex
    rw [List.get_eq_getElem, List.get_eq_getElem] at hrows
    rw [List.getElem_map, List.getElem_map, List.getElem_range, hrows, ← hsize]
    exact List.map_congr_left fun y _ ↦ (pixel_row_eq hplane hsize y).symm

/-- A row has a pixel for each byte of a row without padding. -/
theorem length_pixel_row (frame : Frame) (index y : Nat) :
    (frame.pixelRow index y).length = tightRow frame.format frame.size index := by
  simp [pixelRow, tightRow]

/-- The pixels of all rows in a row. -/
theorem pixel_rows_flatten (frame : Frame) : frame.pixelRows.flatten
    = (List.range frame.format.planeCount).flatMap fun index ↦
        (List.range (frame.format.planeSize index frame.size).height.toNat).flatMap
          (frame.pixelRow index) := by
  simp [pixelRows, List.flatMap_def, List.flatten_flatten, Function.comp_def]

/-- A frame has as many pixels as a packed frame of its format and size has bytes. -/
theorem length_pixel_rows (frame : Frame) : frame.pixelRows.flatten.length
    = ((List.range frame.format.planeCount).map (tightBytes frame.format frame.size)).sum := by
  rw [pixel_rows_flatten, List.length_flatMap]
  refine congrArg List.sum (List.map_congr_left fun index _ ↦ ?_)
  simp [length_pixel_row, tightBytes, Nat.mul_comm]

/-- Frames of one format and size with the same pixels in a row look alike. -/
theorem looks_like_of_pixel_rows (hformat : frame.format = other.format)
    (hsize : frame.size = other.size) (h : frame.pixelRows.flatten = other.pixelRows.flatten) :
    frame.LooksLike other := by
  refine ⟨hformat, hsize, ?_⟩
  intro index channel x y hpixel
  have hlength (index y : Nat) :
      (frame.pixelRow index y).length = (other.pixelRow index y).length := by
    rw [length_pixel_row, length_pixel_row, hformat, hsize]
  rw [pixel_rows_flatten, pixel_rows_flatten, ← hformat, ← hsize] at h
  -- Rows have the same length in both frames, so that what stands at one place is the same.
  have hplane := rows_eq_of_flat_map_eq (by simp [List.length_flatMap, hlength]) h index
    (List.mem_range.mpr hpixel.plane)
  have hrow := rows_eq_of_flat_map_eq (by simp [hlength]) hplane y (List.mem_range.mpr hpixel.row)
  unfold pixelRow at hrow
  rw [← hformat, ← hsize] at hrow
  have hcolumn := rows_eq_of_flat_map_eq (by simp) hrow x (List.mem_range.mpr hpixel.column)
  exact List.map_inj_left.mp hcolumn channel (List.mem_range.mpr hpixel.channel)

/-! ### Writing frames -/

/-- A plane is written row by row. -/
theorem write_rows_eq_each {plane : Plane} {channels y count : Nat} (sink : Sink)
    (hrows : plane.rowsFrom? channels y count = some rows) :
    writeRows plane channels y count sink = Sink.writeEach rows sink := by
  induction count generalizing y rows sink with
  | zero =>
      cases hrows
      rfl
  | succ count ih =>
      rw [Plane.rowsFrom?] at hrows
      simp only [Option.bind_eq_bind, Option.bind_eq_some_iff] at hrows
      obtain ⟨row, hrow, rest, hrest, hresult⟩ := hrows
      cases hresult
      rw [writeRows, hrow, Sink.writeEach]
      dsimp only
      cases sink.write row with
      | error error => rfl
      | ok sink => exact ih sink hrest

/-- Planes are written row by row, one after the other. -/
theorem write_planes_eq_each {channels : Nat} {planes : List Plane}
    {lists : List (List (List UInt8))} (sink : Sink)
    (h : List.Forall₂ (fun plane rows ↦ plane.rows? channels = some rows) planes lists) :
    writePlanes channels planes sink = Sink.writeEach lists.flatten sink := by
  induction h generalizing sink with
  | nil => rfl
  | @cons plane rows _ _ hplane _ ih =>
      rw [writePlanes, write_rows_eq_each sink hplane, List.flatten_cons, Sink.write_each_append]
      rcases Sink.writeEach rows sink with ⟨_ | _, left⟩
      · rfl
      · exact ih left

/-- A frame is written row by row. -/
theorem write_packed_eq_each (hrows : frame.rows? = some rows) (sink : Sink) :
    frame.writePacked sink = Sink.writeEach rows sink := by
  simp only [rows?, Option.bind_eq_bind, Option.bind_eq_some_iff, Failing.map_eq_some_iff] at hrows
  obtain ⟨lists, hlists, hresult⟩ := hrows
  cases hresult
  exact write_planes_eq_each sink hlists

/-! ### Frames made of bytes -/

/-- Planes are filled with as many bytes as they have, and with all of them. -/
theorem fill_planes_related (hlength : bytes.length = (planes.map TightPlane.bytes).sum) :
    List.Forall₂ (fun tight plane ↦ plane = tight.fill plane.data ∧ plane.data.size = tight.bytes)
        planes (fillPlanes planes bytes) ∧
      ((fillPlanes planes bytes).map (·.data.toList)).flatten = bytes := by
  induction planes generalizing bytes with
  | nil =>
      rw [List.map_nil, List.sum_nil, List.length_eq_zero_iff] at hlength
      exact ⟨.nil, hlength.symm⟩
  | cons plane planes ih =>
      rw [List.map_cons, List.sum_cons] at hlength
      have hrest : (bytes.drop plane.bytes).length = (planes.map TightPlane.bytes).sum := by
        rw [List.length_drop]
        omega
      obtain ⟨hothers, hbytes⟩ := ih hrest
      refine ⟨.cons ⟨rfl, ?_⟩ hothers, ?_⟩
      · show (bytes.take plane.bytes).length = plane.bytes
        rw [List.length_take]
        omega
      · rw [fillPlanes, List.map_cons, List.flatten_cons, hbytes]
        exact List.take_append_drop plane.bytes bytes

/-- Every plane of a frame that is made of bytes is well-formed and has no padding. -/
theorem of_packed_plane (h : ofPacked format size bytes = .ok frame) {plane : Plane}
    (hplane : frame.planes[index]? = some plane) :
    plane.size = format.planeSize index size ∧ plane.WellFormed format.channels ∧
      plane.IsTight format.channels := by
  obtain ⟨planes, hplanes, hlength, rfl⟩ := of_packed_eq_ok_iff.mp h
  obtain ⟨tight, htight, hfill, hdata⟩ :=
    Failing.exists_of_forall₂ (fill_planes_related hlength).1.flip hplane
  have hready := tight_plane_of_tight_planes hplanes htight
  obtain ⟨hsize, hformed⟩ :=
    well_formed_of_tight (tight_planes_eq_ok_iff.mp hplanes).1 hready hdata
  obtain ⟨hrow, _, rfl⟩ := tight_plane_eq_ok_iff.mp hready
  rw [hfill]
  exact ⟨hsize, hformed, UInt64.toNat_ofNat_of_lt' hrow, hdata⟩

/-- A frame that is made of bytes is well-formed and of the format and size that were asked for. -/
theorem of_packed_formed (h : ofPacked format size bytes = .ok frame) :
    frame.WellFormed ∧ frame.format = format ∧ frame.size = size := by
  have hplane (index : Nat) (plane : Plane) (hplane : frame.planes[index]? = some plane) :=
    of_packed_plane h hplane
  obtain ⟨planes, hplanes, hlength, rfl⟩ := of_packed_eq_ok_iff.mp h
  obtain ⟨hsize, hready⟩ := tight_planes_eq_ok_iff.mp hplanes
  have hcount : (fillPlanes planes bytes).length = format.planeCount := by
    rw [← (fill_planes_related hlength).1.length_eq, ← hready.length_eq, List.length_range]
  exact ⟨⟨hsize, hcount, fun index plane hindex ↦
    ⟨(hplane index plane hindex).1, (hplane index plane hindex).2.1⟩⟩, rfl, rfl⟩

/-- The packed form of a frame that is made of bytes is made of these bytes. -/
theorem of_packed_packed (h : ofPacked format size bytes = .ok frame) :
    frame.packed? = some bytes := by
  have hrows (plane : Plane) (hmem : plane ∈ frame.planes) : ∃ rows,
      plane.rows? format.channels = some rows ∧ rows.flatten = plane.data.toList := by
    obtain ⟨index, hindex⟩ := List.getElem?_of_mem hmem
    obtain ⟨_, hformed, htight⟩ := of_packed_plane h hindex
    exact hformed.exists_tight_rows htight
  obtain ⟨planes, _, hlength, rfl⟩ := of_packed_eq_ok_iff.mp h
  obtain ⟨lists, hlists, hrelated⟩ := Failing.exists_map_related hrows
  have hdata : lists.map List.flatten = (fillPlanes planes bytes).map (·.data.toList) := by
    rw [← List.forall₂_eq_eq_eq, List.forall₂_map_left_iff, List.forall₂_map_right_iff]
    exact hrelated.flip
  rw [packed?, rows?, hlists]
  show some lists.flatten.flatten = some bytes
  rw [List.flatten_flatten, hdata, (fill_planes_related hlength).2]

/-! ### Packed frames -/

/-- The packed form of a well-formed frame is its pixels. -/
theorem WellFormed.packed_pixels (h : frame.WellFormed) (hbytes : frame.packed? = some bytes) :
    frame.pixelRows.flatten = bytes.map some := by
  obtain ⟨rows, hrows, hpixels⟩ := h.exists_rows
  rw [packed?, hrows] at hbytes
  cases hbytes
  rw [← hpixels, List.map_flatten]

/-- A well-formed frame is made again of its packed form, without padding. -/
theorem WellFormed.exists_tight (h : frame.WellFormed) (hbytes : frame.packed? = some bytes) :
    frame.format.frameBytes frame.size = .ok bytes.length ∧ ∃ tight,
      ofPacked frame.format frame.size bytes = .ok tight ∧ tight.WellFormed ∧
        (∀ plane ∈ tight.planes, plane.IsTight tight.format.channels) ∧ frame.LooksLike tight := by
  obtain ⟨_, hblank⟩ := h.exists_blank
  obtain ⟨planes, hplanes, _⟩ := Failing.bind_eq_ok_iff.mp hblank
  have hpixels := h.packed_pixels hbytes
  have hlength : bytes.length = (planes.map TightPlane.bytes).sum := by
    rw [bytes_of_tight_planes hplanes, ← length_pixel_rows, hpixels, List.length_map]
  have htight := of_packed_eq_ok_iff.mpr ⟨planes, hplanes, hlength, rfl⟩
  obtain ⟨hformed, hformat, hsize⟩ := of_packed_formed htight
  refine ⟨by rw [frame_bytes_of_tight hplanes, hlength], _, htight, hformed, ?_, ?_⟩
  · intro plane hplane
    obtain ⟨index, hindex⟩ := List.getElem?_of_mem hplane
    exact (of_packed_plane htight hindex).2.2
  · refine looks_like_of_pixel_rows hformat.symm hsize.symm ?_
    rw [hpixels, hformed.packed_pixels (of_packed_packed htight)]

/-- The packed form and the padded form of a frame agree. What is written of a well-formed frame,
whatever its strides and its padding, is the pixels of one row after the other: all of them, as many
as the format and the size say, if no write is refused, and if one is, those of the rows in front of
it. The frame that is made of these bytes has no padding, shows the same pixels, and is written in
the same way. The other way round, a frame can be made of any bytes of the right number if there is
memory for it, and then exactly these bytes are written. -/
theorem packed_is_pixels :
    (∀ frame : Frame, frame.WellFormed → ∃ rows tight,
      rows.map (·.map some) = frame.pixelRows ∧
      frame.format.frameBytes frame.size = .ok rows.flatten.length ∧
      (∀ sink : Sink, sink.Takes rows →
        frame.writePacked sink = (.ok (), sink.after rows.flatten)) ∧
      (∀ sink : Sink, ¬sink.Takes rows → ∃ front row back failure,
        rows = front ++ row :: back ∧ sink.Takes front ∧
        (sink.after front.flatten).refusal (sink.after front.flatten).written row = some failure ∧
        frame.writePacked sink = (.error (.refused (.io failure)), sink.after front.flatten)) ∧
      ofPacked frame.format frame.size rows.flatten = .ok tight ∧ tight.WellFormed ∧
      (∀ plane ∈ tight.planes, plane.IsTight tight.format.channels) ∧ frame.LooksLike tight ∧
      ∀ sink, tight.writePacked sink = frame.writePacked sink) ∧
    (∀ (format : PixelFormat) (size : Canvas) (bytes : List UInt8),
      (∃ fresh, blank format size = .ok fresh) → format.frameBytes size = .ok bytes.length →
        ∃ frame, ofPacked format size bytes = .ok frame ∧
          frame.writePacked .unlimited = (.ok (), Sink.unlimited.after bytes)) := by
  constructor
  · intro frame h
    obtain ⟨rows, hrows, hpixels⟩ := h.exists_rows
    have hpacked : frame.packed? = some rows.flatten := by
      rw [packed?, hrows]
      rfl
    obtain ⟨hcount, tight, htight, hformed, hplanes, hlike⟩ := h.exists_tight hpacked
    refine ⟨rows, tight, hpixels, hcount, ?_, ?_, htight, hformed, hplanes, hlike, ?_⟩
    · intro sink htakes
      rw [write_packed_eq_each hrows, htakes.write_each]
    · intro sink hrefused
      rw [write_packed_eq_each hrows]
      exact Sink.write_each_refused hrefused
    · intro sink
      exact (hlike.write_packed h hformed sink).symm
  · rintro format size bytes ⟨fresh, hblank⟩ hcount
    obtain ⟨planes, hplanes, _⟩ := Failing.bind_eq_ok_iff.mp hblank
    have hlength : bytes.length = (planes.map TightPlane.bytes).sum :=
      Except.ok.inj (hcount.symm.trans (frame_bytes_of_tight hplanes))
    have hframe := of_packed_eq_ok_iff.mpr ⟨planes, hplanes, hlength, rfl⟩
    obtain ⟨rows, hrows, _⟩ := (of_packed_formed hframe).1.exists_rows
    have hpacked := of_packed_packed hframe
    rw [packed?, hrows] at hpacked
    cases hpacked
    refine ⟨_, hframe, ?_⟩
    have htakes : Sink.unlimited.Takes rows := Sink.takes_of_never fun _ _ ↦ rfl
    rw [write_packed_eq_each hrows, htakes.write_each]

/-- A colored frame of two pixels, one above the other, with padding behind both. -/
def spotColumn : Frame :=
  ⟨.rgb24, ⟨1, 2⟩, [⟨1, 2, 5, #[1, 2, 3, 90, 91, 4, 5, 6, 92]⟩]⟩

/-- The two pixels are written without the padding. A sink with room for five bytes gets the first
of them. The frame that is made of their bytes has rows of three bytes and is written as them. -/
theorem spot_column_packed :
    spotColumn.writePacked .unlimited = (.ok (), Sink.unlimited.after [1, 2, 3, 4, 5, 6]) ∧
    spotColumn.writePacked (.limited 5 .noSpace)
      = (.error (.refused (.io .noSpace)), (Sink.limited 5 .noSpace).after [1, 2, 3]) ∧
    ofPacked .rgb24 ⟨1, 2⟩ [1, 2, 3, 4, 5, 6]
      = .ok ⟨.rgb24, ⟨1, 2⟩, [⟨1, 2, 3, #[1, 2, 3, 4, 5, 6]⟩]⟩ ∧
    writePacked ⟨.rgb24, ⟨1, 2⟩, [⟨1, 2, 3, #[1, 2, 3, 4, 5, 6]⟩]⟩ .unlimited
      = (.ok (), Sink.unlimited.after [1, 2, 3, 4, 5, 6]) := by
  have hformed : spotColumn.WellFormed := by
    refine ⟨by decide, rfl, ?_⟩
    intro index plane hplane
    cases index with
    | zero =>
        cases hplane
        exact ⟨rfl, by decide, by decide, by decide⟩
    | succ index => cases hplane
  have hmade : ofPacked .rgb24 ⟨1, 2⟩ [1, 2, 3, 4, 5, 6]
      = .ok ⟨.rgb24, ⟨1, 2⟩, [⟨1, 2, 3, #[1, 2, 3, 4, 5, 6]⟩]⟩ := by
    decide +kernel
  obtain ⟨hframes, hbytes⟩ := packed_is_pixels
  obtain ⟨rows, _, hpixels, _, htakes, hrefused, _⟩ := hframes spotColumn hformed
  have hrows : rows = [[1, 2, 3], [4, 5, 6]] := by
    refine List.map_injective_iff.mpr (List.map_injective_iff.mpr (Option.some_injective _)) ?_
    rw [hpixels]
    decide
  subst hrows
  refine ⟨htakes .unlimited ⟨rfl, rfl, trivial⟩, ?_, hmade, ?_⟩
  · have hroom : ¬(Sink.limited 5 .noSpace).Takes [[1, 2, 3], [4, 5, 6]] := by
      rintro ⟨_, hsecond, _⟩
      cases hsecond
    obtain ⟨front, row, back, failure, hsplit, _, hrefusal, hwritten⟩ := hrefused _ hroom
    rcases front with _ | ⟨first, _ | ⟨second, others⟩⟩
    · cases hsplit
      cases hrefusal
    · cases hsplit
      cases hrefusal
      exact hwritten
    · simp at hsplit
  · obtain ⟨frame, hframe, hwritten⟩ :=
      hbytes .rgb24 ⟨1, 2⟩ [1, 2, 3, 4, 5, 6] ⟨_, rfl⟩ (by decide +kernel)
    cases hframe.symm.trans hmade
    exact hwritten

end Frame

end Panorama
