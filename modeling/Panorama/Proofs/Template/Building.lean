import Panorama.Proofs.Template.Assembly

/-!
# Templates mean what was set

Of all edits of a pixel only the last one counts, and edits outside the output do not. The finished
template gives the contributions of every pixel back, and so do all its readers: the look-up of a
pixel, the list of the overlaps and the counts of the coverage. The lists of the builder are the
contributions row by row (`TemplateBuilder.edit_all_entries`), and the table's counts are their
lengths (`SampleTable.Holds.counts`).
-/

namespace Panorama

/-- The pixels of an output. -/
def Canvas.pixels (size : Canvas) : Finset (Nat × Nat) :=
  Finset.range size.width.toNat ×ˢ Finset.range size.height.toNat

namespace Canvas

variable {size : Canvas} {x y : Nat}

/-- The pixel at a position of the row-major order. -/
def pixelAt (size : Canvas) (index : Nat) : Nat × Nat :=
  (index % size.width.toNat, index / size.width.toNat)

/-- A pixel of an output is found at its position. -/
theorem pixel_at_index (hx : x < size.width.toNat) (y : Nat) :
    size.pixelAt (y * size.width.toNat + x) = (x, y) := by
  rw [pixelAt, Nat.add_comm, Nat.add_mul_mod_self_right, Nat.mod_eq_of_lt hx,
    Nat.add_mul_div_right _ _ (by omega), Nat.div_eq_of_lt hx, Nat.zero_add]

/-- A pixel of an output has a position. -/
theorem index_lt_area (hx : x < size.width.toNat) (hy : y < size.height.toNat) :
    y * size.width.toNat + x < size.area := by
  calc y * size.width.toNat + x
      < y * size.width.toNat + size.width.toNat := Nat.add_lt_add_left hx _
    _ = (y + 1) * size.width.toNat := (Nat.succ_mul ..).symm
    _ ≤ size.height.toNat * size.width.toNat := Nat.mul_le_mul_right _ hy
    _ = size.area := Nat.mul_comm ..

/-- Every position is that of a pixel. -/
theorem exists_pixel {index : Nat} (hindex : index < size.area) :
    ∃ x < size.width.toNat, ∃ y < size.height.toNat, index = y * size.width.toNat + x := by
  have hwidth : 0 < size.width.toNat :=
    Nat.pos_of_ne_zero fun hzero ↦ by simp [area, hzero] at hindex
  exact ⟨_, Nat.mod_lt _ hwidth, _, Nat.div_lt_of_lt_mul hindex, (Nat.div_add_mod' ..).symm⟩

/-- An output of an acceptable size has a pixel. -/
theorem area_pos_of_template_size (h : size.isTemplateSize) : 0 < size.area := by
  simp only [isTemplateSize, isEmpty, Bool.and_eq_true, Bool.not_eq_true', Bool.or_eq_false_iff,
    beq_eq_false_iff_ne, Ne, ← UInt32.toNat_inj, UInt32.toNat_zero] at h
  exact Nat.mul_pos (Nat.pos_of_ne_zero h.1.1.1) (Nat.pos_of_ne_zero h.1.1.2)

/-- A sum over the pixels of an output is one over the positions. -/
theorem sum_pixels (size : Canvas) (value : Nat × Nat → Nat) :
    ∑ pixel ∈ size.pixels, value pixel
      = ((List.range size.area).map fun index ↦ value (size.pixelAt index)).sum := by
  have hinside {pixel : Nat × Nat} (h : pixel ∈ size.pixels) :
      pixel.1 < size.width.toNat ∧ pixel.2 < size.height.toNat := by
    simpa [pixels] using h
  show _ = ∑ index ∈ Finset.range size.area, value (size.pixelAt index)
  refine Finset.sum_nbij' (fun pixel ↦ pixel.2 * size.width.toNat + pixel.1) size.pixelAt
    (fun pixel hpixel ↦ ?_) (fun index hindex ↦ ?_) (fun pixel hpixel ↦ ?_)
    (fun index _ ↦ Nat.div_add_mod' ..) (fun pixel hpixel ↦ ?_)
  · exact Finset.mem_range.mpr (index_lt_area (hinside hpixel).1 (hinside hpixel).2)
  · obtain ⟨x, hx, y, hy, rfl⟩ := exists_pixel (Finset.mem_range.mp hindex)
    rw [pixel_at_index hx]
    exact Finset.mk_mem_product (Finset.mem_range.mpr hx) (Finset.mem_range.mpr hy)
  · exact pixel_at_index (hinside hpixel).1 _
  · rw [pixel_at_index (hinside hpixel).1]

/-- The number of pixels of a kind is that of their positions. -/
theorem card_pixels (size : Canvas) (counted : Nat × Nat → Prop) [DecidablePred counted] :
    (size.pixels.filter counted).card
      = (List.range size.area).countP fun index ↦ counted (size.pixelAt index) := by
  rw [Finset.card_filter, sum_pixels, List.countP_eq_length_filter]
  exact (Finset.card_filter (fun index ↦ counted (size.pixelAt index)) (.range size.area)).symm

/-- What there is at the pixels of an output, row by row. -/
def rowByRow {α : Type} (size : Canvas) (value : Nat → Nat → α) : List α :=
  (List.range size.area).map fun index ↦ value (size.pixelAt index).1 (size.pixelAt index).2

section RowByRow

variable {α : Type} {value : Nat → Nat → α}

/-- What there is at a pixel is found at its position. -/
theorem row_by_row_get (value : Nat → Nat → α) (hx : x < size.width.toNat)
    (hy : y < size.height.toNat) :
    (size.rowByRow value)[y * size.width.toNat + x]? = some (value x y) := by
  rw [rowByRow, List.getElem?_map, List.getElem?_range (index_lt_area hx hy), Option.map_some,
    pixel_at_index hx]

/-- There is one item per pixel. -/
theorem row_by_row_length : (size.rowByRow value).length = size.area := by
  rw [rowByRow, List.length_map, List.length_range]

/-- Every item is at a pixel. -/
theorem mem_row_by_row {item : α} : item ∈ size.rowByRow value ↔
    ∃ x < size.width.toNat, ∃ y < size.height.toNat, item = value x y := by
  constructor
  · intro hitem
    obtain ⟨index, hindex, rfl⟩ := List.mem_map.mp hitem
    obtain ⟨x, hx, y, hy, rfl⟩ := exists_pixel (List.mem_range.mp hindex)
    rw [pixel_at_index hx]
    exact ⟨x, hx, y, hy, rfl⟩
  · rintro ⟨x, hx, y, hy, rfl⟩
    exact List.mem_of_getElem? (row_by_row_get value hx hy)

/-- A function of the items has its values row by row. -/
theorem map_row_by_row {β : Type} (f : α → β) :
    (size.rowByRow value).map f = size.rowByRow fun x y ↦ f (value x y) :=
  List.map_map

/-- The items of a kind are as many as their pixels. -/
theorem count_row_by_row (value : Nat → Nat → α) (counted : α → Prop) [DecidablePred counted] :
    (size.rowByRow value).countP (fun item ↦ counted item)
      = (size.pixels.filter fun pixel ↦ counted (value pixel.1 pixel.2)).card := by
  rw [rowByRow, List.countP_map, card_pixels]
  rfl

end RowByRow

end Canvas

/-- A change of a builder. -/
inductive TemplateEdit where
  /-- Set the contributions of a pixel. -/
  | set (x y : Nat) (entry : List Sample)
  /-- Map a pixel to one point of one source. -/
  | mapSingle (x y : Nat) (source : UInt16) (sourceX sourceY : Float32)

namespace TemplateEdit

/-- The pixel that is changed. -/
def pixel : TemplateEdit → Nat × Nat
  | set x y _ => (x, y)
  | mapSingle x y _ _ _ => (x, y)

/-- The contributions that the pixel gets. -/
def entry : TemplateEdit → List Sample
  | set _ _ entry => entry
  | mapSingle _ _ source sourceX sourceY => [⟨source, sourceX, sourceY, 1⟩]

/-- The contributions of a pixel after several edits: those of the last edit of it. -/
def contributions (edits : List TemplateEdit) (x y : Nat) : List Sample :=
  match (edits.filter (·.pixel = (x, y))).getLast? with
  | some edit => edit.entry
  | none => []

/-- One more edit counts at its pixel. -/
theorem contributions_concat (edits : List TemplateEdit) (edit : TemplateEdit) (x y : Nat) :
    contributions (edits ++ [edit]) x y =
      if edit.pixel = (x, y) then edit.entry else contributions edits x y := by
  by_cases hpixel : edit.pixel = (x, y) <;> simp [contributions, hpixel]

end TemplateEdit

open TemplateEdit (contributions)

/-! ### The lists of a builder -/

namespace TemplateBuilder

/-- The builder after an edit. -/
def edit (builder : TemplateBuilder) : TemplateEdit → TemplateBuilder
  | .set x y entry => builder.set x y entry
  | .mapSingle x y source sourceX sourceY => builder.mapSingle x y source sourceX sourceY

/-- The builder after several edits. -/
def editAll (builder : TemplateBuilder) (edits : List TemplateEdit) : TemplateBuilder :=
  edits.foldl edit builder

/-- Every edit sets the contributions of its pixel. -/
theorem edit_eq_set (builder : TemplateBuilder) (edit : TemplateEdit) :
    builder.edit edit = builder.set edit.pixel.1 edit.pixel.2 edit.entry := by
  cases edit <;> rfl

/-- The builder after one more edit. -/
theorem edit_all_concat (builder : TemplateBuilder) (edits : List TemplateEdit)
    (edit : TemplateEdit) :
    builder.editAll (edits ++ [edit]) = (builder.editAll edits).edit edit :=
  List.foldl_concat ..

/-- Edits are a way of assembling. -/
theorem edit_all_assembled (header : TemplateHeader) (edits : List TemplateEdit) :
    ((start header).editAll edits).Assembled :=
  List.foldlRecOn edits _ (.start header) fun builder hassembled edit _ ↦
    builder.edit_eq_set edit ▸ hassembled.set ..

/-- Edits keep the header. -/
theorem edit_all_header (header : TemplateHeader) (edits : List TemplateEdit) :
    ((start header).editAll edits).toTemplateHeader = header :=
  List.foldlRecOn (motive := fun builder : TemplateBuilder ↦ builder.toTemplateHeader = header)
    edits edit rfl fun builder hheader edit _ ↦ by rw [edit_eq_set, set_header, hheader]

/-- After all edits, a pixel has the contributions of the last edit of it. -/
theorem edit_all_entries_get {header : TemplateHeader} (hsize : header.size.isTemplateSize)
    (edits : List TemplateEdit) {x y : Nat} (hx : x < header.size.width.toNat)
    (hy : y < header.size.height.toNat) :
    ((start header).editAll edits).entries[y * header.size.width.toNat + x]?
      = some (contributions edits x y) := by
  have hindex := Canvas.index_lt_area hx hy
  induction edits using List.reverseRecOn with
  | nil =>
      have hentries : (start header).entries = Array.replicate header.size.area [] := by
        rw [start, if_pos hsize]
      rw [editAll, List.foldl_nil, hentries, Array.getElem?_replicate, if_pos hindex]
      rfl
  | append_singleton edits edit ih =>
      have hcount : ((start header).editAll edits).entries.size = header.size.area := by
        rw [(edit_all_assembled header edits).entries_size, edit_all_header, if_pos hsize]
      rw [edit_all_concat, edit_eq_set, set_entries_get _ _ _ _ (hcount.symm ▸ hindex),
        edit_all_header, TemplateEdit.contributions_concat, ih]
      by_cases hpixel : edit.pixel = (x, y)
      · rw [if_pos hpixel, hpixel, if_pos ⟨⟨hx, hy⟩, rfl⟩]
      · rw [if_neg hpixel, if_neg]
        rintro ⟨⟨hcolumn, -⟩, hsame⟩
        refine hpixel ?_
        rw [← Canvas.pixel_at_index hx y, ← hsame, Canvas.pixel_at_index hcolumn]

/-- After all edits, the lists of the builder are the contributions row by row. -/
theorem edit_all_entries {header : TemplateHeader} (hsize : header.size.isTemplateSize)
    (edits : List TemplateEdit) :
    ((start header).editAll edits).entries.toList
      = header.size.rowByRow (contributions edits) := by
  have hcount : ((start header).editAll edits).entries.size = header.size.area := by
    rw [(edit_all_assembled header edits).entries_size, edit_all_header, if_pos hsize]
  refine List.ext_getElem? fun index ↦ ?_
  rw [Array.getElem?_toList]
  by_cases hindex : index < header.size.area
  · obtain ⟨x, hx, y, hy, rfl⟩ := Canvas.exists_pixel hindex
    rw [edit_all_entries_get hsize edits hx hy, Canvas.row_by_row_get _ hx hy]
  · have hbehind := Nat.le_of_not_lt hindex
    rw [Array.getElem?_eq_none (hcount ▸ hbehind),
      List.getElem?_eq_none (Canvas.row_by_row_length ▸ hbehind)]

end TemplateBuilder

/-! ### What is accepted -/

namespace SampleTable

variable {table : SampleTable} {inputs : List Canvas}

/-- If the contributions of several pixels are not all added, one of them is malformed, or all
together are. -/
theorem add_all_error {entries : List (List Sample)} {error : Error}
    (h : entries.foldlM (fun table entry ↦ table.add inputs entry) table = Except.error error) :
    ∃ flaw, error = .malformedTemplate flaw := by
  induction entries generalizing table with
  | nil => cases h
  | cons entry entries ih =>
      rw [List.foldlM_cons] at h
      obtain hfirst | ⟨next, _, hrest⟩ := Failing.bind_eq_error_iff.mp h
      · obtain ⟨flaw, rfl, _⟩ := add_error hfirst
        exact ⟨flaw, rfl⟩
      · exact ih hrest

/-- The contributions of several pixels can be added if those of every pixel are accepted and the
table stays within a 32-bit word. -/
theorem exists_add_all_iff {entries : List (List Sample)}
    (hsize : table.samples.size < UInt32.size) :
    (∃ next, entries.foldlM (fun table entry ↦ table.add inputs entry) table = Except.ok next) ↔
      (∀ entry ∈ entries, Sample.entryFlaw? inputs entry = none) ∧
        table.samples.size + (entries.map List.length).sum < UInt32.size := by
  induction entries generalizing table with
  | nil => simpa using ⟨fun _ ↦ hsize, fun _ ↦ ⟨_, rfl⟩⟩
  | cons entry entries ih =>
      have hadded : (table.append entry).samples.size = table.samples.size + entry.length := by
        rw [append, ← Array.length_toList, Array.toList_appendList, List.length_append,
          Array.length_toList]
      rw [List.foldlM_cons, List.forall_mem_cons, List.map_cons, List.sum_cons, ← Nat.add_assoc,
        ← hadded]
      constructor
      · rintro ⟨next, hnext⟩
        obtain ⟨middle, hfirst, hrest⟩ := Failing.bind_eq_ok_iff.mp hnext
        obtain ⟨hflaw, hmiddle, rfl⟩ := add_eq_ok_iff.mp hfirst
        obtain ⟨hflaws, hsum⟩ := (ih hmiddle).mp ⟨next, hrest⟩
        exact ⟨⟨hflaw, hflaws⟩, hsum⟩
      · rintro ⟨⟨hflaw, hflaws⟩, hsum⟩
        have hmiddle : (table.append entry).samples.size < UInt32.size := by omega
        obtain ⟨next, hrest⟩ := (ih hmiddle).mpr ⟨hflaws, hsum⟩
        exact ⟨next, Failing.bind_eq_ok_iff.mpr
          ⟨_, add_eq_ok_iff.mpr ⟨hflaw, hmiddle, rfl⟩, hrest⟩⟩

namespace Holds

variable {entries : List (List Sample)}

/-- The offsets do not decrease. -/
theorem offsets_ordered (h : table.Holds entries) : table.offsets.toList.Pairwise (· ≤ ·) := by
  have hoffset {index : Nat} (hindex : index < table.offsets.size) :
      table.offsets[index] = (entries.take index).flatten.length := by
    have hvalue := h.offset index (by rw [h.offset_count] at hindex; omega)
    rwa [Array.getElem?_eq_getElem hindex, Option.some.injEq] at hvalue
  rw [List.pairwise_iff_getElem]
  intro first second hfirst hsecond hless
  rw [Array.length_toList] at hfirst hsecond
  rw [Array.getElem_toList, Array.getElem_toList, hoffset hfirst, hoffset hsecond]
  exact (List.take_prefix_take_left hless.le).flatten.length_le

/-- The counts are the lengths of the lists. -/
theorem counts (h : table.Holds entries) : table.counts = entries.map List.length := by
  refine List.ext_getElem (by simp [SampleTable.counts, h.size]) fun index hindex hlast ↦ ?_
  rw [List.length_map] at hlast
  have hstart := h.offset index (by omega)
  have hstop := h.offset (index + 1) (by omega)
  simp only [SampleTable.counts, List.getElem_map, List.getElem_range, Array.getD_eq_getD_getElem?,
    hstart, hstop, Option.getD_some]
  rw [List.take_succ_eq_append_getElem hlast, List.flatten_append, List.length_append,
    List.flatten_singleton, Nat.add_sub_cancel_left]

end Holds

end SampleTable

/-- The counts of a coverage add up pixel by pixel. -/
theorem Coverage.count_all (counts : List Nat) (coverage : Coverage) :
    let last := counts.foldl Coverage.add coverage
    last.mapped = coverage.mapped + counts.countP (1 ≤ ·) ∧
      last.unmapped = coverage.unmapped + counts.countP (· = 0) ∧
        last.overlap = coverage.overlap + counts.countP (2 ≤ ·) ∧
          last.maxSources = counts.foldl max coverage.maxSources := by
  induction counts generalizing coverage with
  | nil => exact ⟨rfl, rfl, rfl, rfl⟩
  | cons count counts ih =>
      obtain ⟨hmapped, hunmapped, hoverlap, hmost⟩ := ih (coverage.add count)
      simp only [List.foldl_cons, List.countP_cons]
      rw [hmapped, hunmapped, hoverlap, hmost]
      rcases count with _ | _ | count <;> simp [Coverage.add] <;> omega

/-- The largest count is one of them. -/
theorem Coverage.max_of_counts {counts : List Nat} (h : counts ≠ []) :
    counts.foldl max 0 ∈ counts ∧ ∀ count ∈ counts, count ≤ counts.foldl max 0 := by
  obtain ⟨first, rest, rfl⟩ := List.exists_cons_of_ne_nil h
  rw [List.foldl_cons, Nat.zero_max]
  exact List.max?_eq_some_iff.mp (List.max?_cons' ..)

/-! ### The main result -/

/-- A template has this header and these contributions, and all its readers find them. -/
structure Template.Means (template : Template) (header : TemplateHeader)
    (contributions : Nat → Nat → List Sample) : Prop where
  /-- The header is the given one. -/
  same_header : template.toTemplateHeader = header
  /-- There is one offset more than there are pixels. -/
  offset_count : template.table.offsets.size = header.size.area + 1
  /-- The first offset is zero. -/
  first_offset : template.table.offsets[0]? = some 0
  /-- The offsets do not decrease. -/
  ordered : template.table.offsets.toList.Pairwise (· ≤ ·)
  /-- The last offset is the number of contributions. -/
  last_offset : template.table.offsets[header.size.area]? = some template.table.samples.size
  /-- The look-up of a pixel of the output gives its contributions. -/
  lookup : ∀ x < header.size.width.toNat, ∀ y < header.size.height.toNat,
    template.lookup? x y = some (contributions x y)
  /-- The overlaps are listed in order. -/
  overlaps_ordered : template.overlapPixels.Pairwise (· < ·)
  /-- The overlaps are the pixels with several contributions. -/
  overlaps : ∀ index, index ∈ template.overlapPixels ↔
    ∃ x < header.size.width.toNat, ∃ y < header.size.height.toNat,
      index = y * header.size.width.toNat + x ∧ 2 ≤ (contributions x y).length
  /-- Every pixel is counted. -/
  total : template.coverage.mapped + template.coverage.unmapped = header.size.area
  /-- The mapped pixels are those with contributions. -/
  mapped : template.coverage.mapped
    = (header.size.pixels.filter fun (x, y) ↦ 1 ≤ (contributions x y).length).card
  /-- The unmapped pixels are those without. -/
  unmapped : template.coverage.unmapped
    = (header.size.pixels.filter fun (x, y) ↦ (contributions x y).length = 0).card
  /-- The overlap is the pixels with several. -/
  overlap : template.coverage.overlap
    = (header.size.pixels.filter fun (x, y) ↦ 2 ≤ (contributions x y).length).card
  /-- The largest number of contributions is that of a pixel. -/
  max_sources : IsGreatest {count | ∃ x < header.size.width.toNat,
    ∃ y < header.size.height.toNat, count = (contributions x y).length} template.coverage.maxSources

namespace Template.Lists

variable {template : Template} {contributions : Nat → Nat → List Sample}
  (h : template.Lists (template.size.rowByRow contributions))

include h

/-- The counts are the numbers of contributions row by row. -/
theorem counts_eq :
    template.table.counts = template.size.rowByRow fun x y ↦ (contributions x y).length := by
  rw [h.holds.1.counts, Canvas.map_row_by_row]

/-- The pixels of a kind are counted. -/
theorem count_pixels (counted : Nat → Prop) [DecidablePred counted] :
    template.table.counts.countP (fun count ↦ counted count)
      = (template.size.pixels.filter fun (x, y) ↦ counted (contributions x y).length).card := by
  rw [h.counts_eq, Canvas.count_row_by_row]

/-- The look-up of a pixel gives its contributions. -/
theorem lookup_eq {x y : Nat} (hx : x < template.size.width.toNat)
    (hy : y < template.size.height.toNat) : template.lookup? x y = some (contributions x y) := by
  rw [lookup?, if_pos ⟨hx, hy⟩, h.holds.1.entry, Canvas.row_by_row_get _ hx hy]

/-- The overlaps are the positions of the pixels with several contributions. -/
theorem overlap_pixels_eq : template.overlapPixels = (List.range template.size.area).filter
    fun index ↦ 2 ≤ (contributions (template.size.pixelAt index).1
      (template.size.pixelAt index).2).length := by
  have hzip (count : Nat → Nat) (size : Nat) : ((List.range size).map count).zipIdx
      = (List.range size).map fun index ↦ (count index, index) :=
    List.ext_getElem (by simp) (by simp)
  rw [overlapPixels, h.counts_eq, Canvas.rowByRow, hzip, List.filter_map, List.map_map]
  exact List.map_id _

/-- A pixel is an overlap if it has several contributions. -/
theorem mem_overlap_pixels {index : Nat} : index ∈ template.overlapPixels ↔
    ∃ x < template.size.width.toNat, ∃ y < template.size.height.toNat,
      index = y * template.size.width.toNat + x ∧ 2 ≤ (contributions x y).length := by
  rw [h.overlap_pixels_eq, List.mem_filter, List.mem_range, decide_eq_true_iff]
  constructor
  · rintro ⟨hindex, hseveral⟩
    obtain ⟨x, hx, y, hy, rfl⟩ := Canvas.exists_pixel hindex
    rw [Canvas.pixel_at_index hx] at hseveral
    exact ⟨x, hx, y, hy, rfl, hseveral⟩
  · rintro ⟨x, hx, y, hy, rfl, hseveral⟩
    rw [Canvas.pixel_at_index hx]
    exact ⟨Canvas.index_lt_area hx hy, hseveral⟩

/-- Every pixel is mapped or unmapped. -/
theorem count_all_pixels : template.table.counts.countP (1 ≤ ·)
    + template.table.counts.countP (· = 0) = template.size.area := by
  have hnone : template.table.counts.countP (fun count ↦ ¬decide (1 ≤ count))
      = template.table.counts.countP (· = 0) :=
    List.countP_congr fun count _ ↦ by simp
  rw [← hnone, ← List.length_eq_countP_add_countP, h.counts_eq, Canvas.row_by_row_length]

/-- The largest count is that of a pixel, and no pixel has a larger one. -/
theorem max_count_is_greatest : IsGreatest {count | ∃ x < template.size.width.toNat,
    ∃ y < template.size.height.toNat, count = (contributions x y).length}
      (template.table.counts.foldl max 0) := by
  have hsome : template.table.counts ≠ [] := by
    rw [Ne, ← List.length_eq_zero_iff, h.counts_eq, Canvas.row_by_row_length]
    exact (Canvas.area_pos_of_template_size (TemplateHeader.size_of_valid h.header)).ne'
  obtain ⟨hmem, hgreatest⟩ := Coverage.max_of_counts hsome
  rw [h.counts_eq] at hmem hgreatest ⊢
  exact ⟨Canvas.mem_row_by_row.mp hmem,
    fun count hcount ↦ hgreatest count (Canvas.mem_row_by_row.mpr hcount)⟩

/-- A template whose lists are these contributions row by row has them as its meaning. -/
theorem means : template.Means template.toTemplateHeader contributions := by
  obtain ⟨hholds, -⟩ := h.holds
  obtain ⟨hmapped, hunmapped, hoverlap, hmost⟩ :=
    Coverage.count_all template.table.counts ⟨0, 0, 0, 0⟩
  simp only [Nat.zero_add] at hmapped hunmapped hoverlap
  exact {
    same_header := rfl
    offset_count := hholds.offset_count.trans (congrArg (· + 1) h.count)
    first_offset := hholds.offset 0 (Nat.zero_le _)
    ordered := hholds.offsets_ordered
    last_offset := by
      rw [← h.count, hholds.offset _ le_rfl, List.take_length, hholds.sample_count]
    lookup := fun _ hx _ hy ↦ h.lookup_eq hx hy
    overlaps_ordered := by
      rw [h.overlap_pixels_eq]
      exact List.pairwise_lt_range.filter _
    overlaps := fun _ ↦ h.mem_overlap_pixels
    total := by rw [coverage, hmapped, hunmapped, h.count_all_pixels]
    mapped := hmapped.trans (h.count_pixels (1 ≤ ·))
    unmapped := hunmapped.trans (h.count_pixels (· = 0))
    overlap := hoverlap.trans (h.count_pixels (2 ≤ ·))
    max_sources := by
      rw [coverage, hmost]
      exact h.max_count_is_greatest }

end Template.Lists

/-- What a builder with this header and these contributions makes of them. -/
structure TemplateBuilder.Finishes (builder : TemplateBuilder) (header : TemplateHeader)
    (contributions : Nat → Nat → List Sample) : Prop where
  /-- A template is finished if the header is valid, the contributions of every pixel are accepted,
  and a 32-bit word counts all of them together. -/
  accepted : (∃ template, builder.build = .ok template) ↔ header.validate = .ok () ∧
    (∀ x < header.size.width.toNat, ∀ y < header.size.height.toNat,
      Sample.entryFlaw? header.inputs (contributions x y) = none) ∧
    ∑ pixel ∈ header.size.pixels, (contributions pixel.1 pixel.2).length < UInt32.size
  /-- Otherwise the template is malformed. -/
  refused : ∀ error, builder.build = .error error → ∃ flaw, error = .malformedTemplate flaw
  /-- The template has the header and the contributions. -/
  means : ∀ template, builder.build = .ok template → template.Means header contributions

/-- A builder finishes a template if its header is valid and its contributions can be added. -/
theorem TemplateBuilder.Assembled.exists_build_iff {builder : TemplateBuilder}
    (h : builder.Assembled) :
    (∃ template, builder.build = .ok template) ↔ builder.toTemplateHeader.validate = .ok () ∧
      ∃ table, builder.entries.toList.foldlM
        (fun table entry ↦ table.add builder.inputs entry) SampleTable.empty = Except.ok table := by
  constructor
  · rintro ⟨template, htemplate⟩
    obtain ⟨hvalid, -, htable, -⟩ := build_eq_ok_iff.mp htemplate
    exact ⟨hvalid, _, htable⟩
  · rintro ⟨hvalid, table, htable⟩
    exact ⟨{ builder.toTemplateHeader with table },
      build_eq_ok_iff.mpr ⟨hvalid, h.area_eq hvalid, htable, rfl⟩⟩

/-- What is not built is malformed. -/
theorem TemplateBuilder.build_error {builder : TemplateBuilder} {error : Error}
    (h : builder.build = .error error) : ∃ flaw, error = .malformedTemplate flaw := by
  obtain hinvalid | ⟨_, _, hrest⟩ := Failing.bind_eq_error_iff.mp h
  · unfold TemplateHeader.validate at hinvalid
    split at hinvalid
    · cases hinvalid
      exact ⟨_, rfl⟩
    · cases hinvalid
  · split at hrest
    · cases hrest
      exact ⟨_, rfl⟩
    · obtain htable | ⟨_, _, hfinished⟩ := Failing.bind_eq_error_iff.mp hrest
      · exact SampleTable.add_all_error htable
      · cases hfinished

/-- Whatever the edits, what is built is what was set last. -/
theorem TemplateBuilder.build_means (header : TemplateHeader) (edits : List TemplateEdit) :
    ((start header).editAll edits).Finishes header (contributions edits) := by
  have hheader := edit_all_header header edits
  have hassembled := edit_all_assembled header edits
  refine ⟨?_, fun _ ↦ build_error, fun template htemplate ↦ ?_⟩
  · rw [hassembled.exists_build_iff, hheader]
    refine and_congr_right fun hvalid ↦ ?_
    rw [edit_all_entries (TemplateHeader.size_of_valid hvalid),
      SampleTable.exists_add_all_iff (by decide), Canvas.map_row_by_row, Canvas.sum_pixels]
    refine and_congr ⟨fun haccepted x hx y hy ↦ ?_, fun haccepted entry hentry ↦ ?_⟩ ?_
    · exact haccepted _ (Canvas.mem_row_by_row.mpr ⟨x, hx, y, hy, rfl⟩)
    · obtain ⟨x, hx, y, hy, rfl⟩ := Canvas.mem_row_by_row.mp hentry
      exact haccepted x hx y hy
    · rw [show SampleTable.empty.samples.size = 0 from rfl, Nat.zero_add]
      rfl
  · have hlists := lists_of_build htemplate
    obtain ⟨hvalid, -, -, hsame⟩ := build_eq_ok_iff.mp htemplate
    rw [hheader] at hvalid hsame
    rw [edit_all_entries (TemplateHeader.size_of_valid hvalid), ← hsame] at hlists
    rw [← hsame]
    exact hlists.means

end Panorama
