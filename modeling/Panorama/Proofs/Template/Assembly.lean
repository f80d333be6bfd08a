import Panorama.Proofs.Template.Accepted

/-!
# Files accept what builders accept

The two ways of making a template check the same rules in different orders: a file while it is read,
a builder when it is finished. They accept the same templates. `TemplateFile` is what a file of the
format can spell, accepted or not, with bits in place of numbers. The stream of a template is the
spelling of such a file, and a builder that is given the header and the contributions of the file
finishes the same template, in whatever order the pixels are set.
-/

namespace Panorama

open Number
open Number (LittleEndian.encode)

/-- A contribution as a file spells it, with the bits of its numbers. -/
structure FileSample where
  /-- Index of the source. -/
  source : UInt16
  /-- Bits of the column. -/
  x : UInt32
  /-- Bits of the row. -/
  y : UInt32
  /-- Bits of the weight. -/
  weight : UInt32

/-- What a template file spells, with the bits of its numbers. -/
structure TemplateFile where
  /-- Size of the output. -/
  size : Canvas
  /-- Sizes of the sources. -/
  inputs : List Canvas
  /-- Bits of the region's left edge. -/
  left : UInt64
  /-- Bits of the region's top edge. -/
  top : UInt64
  /-- Bits of the region's width. -/
  width : UInt64
  /-- Bits of the region's height. -/
  height : UInt64
  /-- How overlaps are combined. -/
  blend : BlendMode
  /-- Whether overlaps are equalized. -/
  gain : GainHint
  /-- What lies beyond the edges of the sources. -/
  edge : EdgePolicy
  /-- The contributions of the pixels, row by row. -/
  entries : List (List FileSample)

/-- The pixels of an output in some order, perhaps repeatedly, but each of them at least once. -/
structure PixelOrder (size : Canvas) where
  /-- The pixels. -/
  pixels : List (Nat × Nat)
  covers : ∀ x y, x < size.width.toNat → y < size.height.toNat → (x, y) ∈ pixels

/-- The pixels of an output row by row. -/
def PixelOrder.rows (size : Canvas) : PixelOrder size where
  pixels := (List.range size.height.toNat).flatMap fun y ↦
    (List.range size.width.toNat).map fun x ↦ (x, y)
  covers x y hx hy := List.mem_flatMap.mpr
    ⟨y, List.mem_range.mpr hy, List.mem_map.mpr ⟨x, List.mem_range.mpr hx, rfl⟩⟩

instance (size : Canvas) : Inhabited (PixelOrder size) := ⟨.rows size⟩

/-! ### Spelling -/

/-- The bytes of a contribution. -/
def FileSample.bytes (sample : FileSample) : List UInt8 :=
  LittleEndian.encode 2 sample.source.toNat ++ LittleEndian.encode 4 sample.x.toNat ++
    LittleEndian.encode 4 sample.y.toNat ++ LittleEndian.encode 4 sample.weight.toNat

/-- The contribution with these bits. -/
def FileSample.sample (sample : FileSample) : Sample :=
  ⟨sample.source, .ofBits sample.x, .ofBits sample.y, .ofBits sample.weight⟩

/-- The bits of a contribution. -/
def Sample.file (sample : Sample) : FileSample :=
  ⟨sample.source, sample.x.toBits, sample.y.toBits, sample.weight.toBits⟩

namespace TemplateFile

/-- The bytes of a file: the mark and the version, the size of the output, the number and the sizes
of the sources, the region, the tags, the number of pixels, and for every pixel the number of its
contributions and the contributions. -/
def bytes (file : TemplateFile) : List UInt8 :=
  templateMagic ++ LittleEndian.encode 4 templateVersion ++
    LittleEndian.encode 4 file.size.width.toNat ++ LittleEndian.encode 4 file.size.height.toNat ++
    LittleEndian.encode 4 file.inputs.length ++
    (file.inputs.flatMap fun size ↦
      LittleEndian.encode 4 size.width.toNat ++ LittleEndian.encode 4 size.height.toNat) ++
    LittleEndian.encode 8 file.left.toNat ++ LittleEndian.encode 8 file.top.toNat ++
    LittleEndian.encode 8 file.width.toNat ++ LittleEndian.encode 8 file.height.toNat ++
    [file.blend.tag, file.gain.tag, file.edge.x.tag, file.edge.y.tag] ++
    LittleEndian.encode 8 file.size.area ++
    file.entries.flatMap fun entry ↦
      LittleEndian.encode 1 entry.length ++ entry.flatMap FileSample.bytes

/-- A file has one list of contributions per pixel, each counted by a byte. -/
structure Declared (file : TemplateFile) : Prop where
  count : file.entries.length = file.size.area
  short : ∀ entry ∈ file.entries, entry.length ≤ 255

/-- The header of a file. -/
def header (file : TemplateFile) : TemplateHeader where
  size := file.size
  inputs := file.inputs
  region := ⟨.ofBits file.left, .ofBits file.top, .ofBits file.width, .ofBits file.height⟩
  blend := file.blend
  gain := file.gain
  edge := file.edge

/-- The contributions of a file. -/
def lists (file : TemplateFile) : List (List Sample) :=
  file.entries.map (·.map FileSample.sample)

/-- The builder that is given the header of a file and then its contributions, pixel by pixel. -/
def builder (file : TemplateFile) (order : PixelOrder file.size) : TemplateBuilder :=
  order.pixels.foldl (fun builder (x, y) ↦
    builder.set x y (file.lists.getD (y * file.size.width.toNat + x) [])) (.start file.header)

/-- The file that spells a header and contributions. -/
def ofLists (header : TemplateHeader) (entries : List (List Sample)) : TemplateFile where
  size := header.size
  inputs := header.inputs
  left := header.region.x.toBits
  top := header.region.y.toBits
  width := header.region.width.toBits
  height := header.region.height.toBits
  blend := header.blend
  gain := header.gain
  edge := header.edge
  entries := entries.map (·.map Sample.file)

/-- The bits of a header are those of the header. -/
theorem of_lists_header (header : TemplateHeader) (entries : List (List Sample)) :
    (ofLists header entries).header = header := by
  simp [TemplateFile.header, ofLists]

/-- The bits of contributions are those of the contributions. -/
theorem of_lists_lists (header : TemplateHeader) (entries : List (List Sample)) :
    (ofLists header entries).lists = entries := by
  have hsample (sample : Sample) : sample.file.sample = sample := by
    simp [Sample.file, FileSample.sample]
  simp [lists, ofLists, Function.comp_def, hsample]

/-- Bits that are a finite contribution are the only ones. -/
theorem sample_bytes {sample : FileSample} (hx : sample.sample.x.isFinite)
    (hy : sample.sample.y.isFinite) (hweight : sample.sample.weight.isFinite) :
    sample.bytes = sample.sample.encode := by
  unfold FileSample.bytes Sample.encode
  rw [List.flatMap_cons, List.flatMap_cons, List.flatMap_cons, List.flatMap_nil, List.append_nil]
  show _ = LittleEndian.encode 2 sample.source.toNat ++
    (LittleEndian.encode 4 (Float32.ofBits sample.x).toBits.toNat ++
      (LittleEndian.encode 4 (Float32.ofBits sample.y).toBits.toNat ++
        LittleEndian.encode 4 (Float32.ofBits sample.weight).toBits.toNat))
  rw [single_to_bits_of_bits hx, single_to_bits_of_bits hy, single_to_bits_of_bits hweight,
    List.append_assoc, List.append_assoc]

/-- The contributions of an accepted pixel are spelled like those of a template. -/
theorem entry_bytes {inputs : List Canvas} {entry : List FileSample}
    (h : Sample.entryFlaw? inputs (entry.map FileSample.sample) = none) :
    LittleEndian.encode 1 entry.length ++ entry.flatMap FileSample.bytes
      = Sample.encodeEntry (entry.map FileSample.sample) := by
  obtain ⟨hshort, hfinite⟩ := Sample.sound_of_entry_flaw h
  rw [List.length_map] at hshort
  have hsamples : entry.flatMap FileSample.bytes
      = (entry.map FileSample.sample).flatMap Sample.encode := by
    rw [List.flatMap_map]
    refine List.flatMap_congr fun sample hsample ↦ ?_
    obtain ⟨_, hx, hy, hweight⟩ := hfinite _ (List.mem_map_of_mem hsample)
    exact sample_bytes hx hy hweight
  rw [Sample.encodeEntry, List.length_map, LittleEndian.encode_one hshort, hsamples]
  rfl

/-- A file whose header and contributions are those of a template spells the template. -/
theorem bytes_eq_encode {file : TemplateFile} {template : Template}
    (hheader : template.toTemplateHeader = file.header) (hlists : template.Lists file.lists) :
    file.bytes = template.encode := by
  obtain ⟨hx, hy, hwidth, hheight⟩ :=
    Region.finite_of_flaw (TemplateHeader.region_of_valid (hheader ▸ hlists.header))
  have hentries : (file.entries.flatMap fun entry ↦
      LittleEndian.encode 1 entry.length ++ entry.flatMap FileSample.bytes)
        = file.lists.flatMap Sample.encodeEntry := by
    rw [lists, List.flatMap_map]
    refine List.flatMap_congr fun entry hentry ↦ ?_
    exact entry_bytes (hlists.holds.2 _ (List.mem_map_of_mem hentry))
  rw [hlists.encode_eq, hheader, ← hentries]
  simp only [bytes, TemplateHeader.encode, Region.encode, Canvas.encode, header,
    List.flatMap_cons, List.flatMap_nil, List.append_nil, List.append_assoc]
  rw [double_to_bits_of_bits hx, double_to_bits_of_bits hy, double_to_bits_of_bits hwidth,
    double_to_bits_of_bits hheight]
  rfl

end TemplateFile

/-! ### Building -/

namespace TemplateBuilder

/-- Setting a pixel of the output changes its contributions and no others. -/
theorem set_entries_get (builder : TemplateBuilder) (x y : Nat) (entry : List Sample)
    {index : Nat} (hindex : index < builder.entries.size) :
    (builder.set x y entry).entries[index]? =
      if (x < builder.size.width.toNat ∧ y < builder.size.height.toNat) ∧
          y * builder.size.width.toNat + x = index then some entry
      else builder.entries[index]? := by
  unfold set
  by_cases hinside : x < builder.size.width.toNat ∧ y < builder.size.height.toNat
  · rw [if_pos hinside]
    simp only [hinside, and_self, true_and]
    rw [Array.getElem?_setIfInBounds]
    split
    · rename_i hsame
      rw [if_pos (hsame ▸ hindex)]
    · rfl
  · rw [if_neg hinside, if_neg fun h ↦ hinside h.1]

end TemplateBuilder

namespace TemplateFile

variable {file : TemplateFile}

/-- Setting pixels one after the other keeps the header and the number of pixels, and a pixel that
has its contributions or is still to be set has them in the end. -/
theorem fill_entries (file : TemplateFile) {builder : TemplateBuilder}
    (hheader : builder.toTemplateHeader = file.header) (pixels : List (Nat × Nat)) :
    let filled := pixels.foldl (fun builder (x, y) ↦
      builder.set x y (file.lists.getD (y * file.size.width.toNat + x) [])) builder
    filled.toTemplateHeader = file.header ∧ filled.entries.size = builder.entries.size ∧
      ∀ index < builder.entries.size,
        (builder.entries[index]? = some (file.lists.getD index []) ∨
          ∃ x y, (x < file.size.width.toNat ∧ y < file.size.height.toNat) ∧ (x, y) ∈ pixels ∧
            y * file.size.width.toNat + x = index) →
        filled.entries[index]? = some (file.lists.getD index []) := by
  induction pixels generalizing builder with
  | nil =>
      refine ⟨hheader, rfl, fun index _ hset ↦ ?_⟩
      rcases hset with hset | ⟨x, y, _, hmem, _⟩
      · exact hset
      · cases hmem
  | cons pixel pixels ih =>
      obtain ⟨x, y⟩ := pixel
      have hsize : builder.size = file.size := congrArg TemplateHeader.size hheader
      let next := builder.set x y (file.lists.getD (y * file.size.width.toNat + x) [])
      have hnext : next.entries.size = builder.entries.size := builder.set_entries_size x y _
      obtain ⟨hlast, hcount, hfilled⟩ := ih ((builder.set_header x y _).trans hheader)
      refine ⟨hlast, hcount.trans hnext, fun index hindex hset ↦ ?_⟩
      refine hfilled index (hnext.symm ▸ hindex) ?_
      -- A pixel that is set twice gets the same contributions twice.
      by_cases hhere : (x < file.size.width.toNat ∧ y < file.size.height.toNat) ∧
          y * file.size.width.toNat + x = index
      · left
        rw [builder.set_entries_get x y _ hindex, hsize, if_pos hhere, hhere.2]
      · rcases hset with hset | ⟨column, row, hinside, hmem, rfl⟩
        · left
          rw [builder.set_entries_get x y _ hindex, hsize, if_neg hhere, hset]
        · rcases List.mem_cons.mp hmem with hfirst | hlater
          · cases hfirst
            exact absurd ⟨hinside, rfl⟩ hhere
          · exact .inr ⟨column, row, hinside, hlater, rfl⟩

/-- Setting pixels one after the other is a way of assembling. -/
theorem builder_assembled (file : TemplateFile) (order : PixelOrder file.size) :
    (file.builder order).Assembled :=
  List.foldlRecOn order.pixels _ (.start file.header) fun _ hassembled _ _ ↦ hassembled.set ..

/-- When every pixel is set, the builder has the contributions of the file. -/
theorem builder_entries (hdeclared : file.Declared) (hsize : file.size.isTemplateSize)
    (order : PixelOrder file.size) :
    (file.builder order).toTemplateHeader = file.header ∧
      (file.builder order).entries.toList = file.lists := by
  obtain ⟨hheader, hcount, hfilled⟩ :=
    file.fill_entries (rfl : (TemplateBuilder.start file.header).toTemplateHeader = _)
      order.pixels
  have hlists : file.lists.length = file.size.area := (List.length_map ..).trans hdeclared.count
  have hstart : (TemplateBuilder.start file.header).entries.size = file.size.area := by
    rw [(TemplateBuilder.Assembled.start file.header).entries_size]
    exact if_pos hsize
  refine ⟨hheader, List.ext_getElem? fun index ↦ ?_⟩
  rw [Array.getElem?_toList]
  by_cases hindex : index < file.size.area
  · -- The pixel at an index is its remainder and quotient by the width.
    have hwidth : 0 < file.size.width.toNat := by
      unfold Canvas.area at hindex
      exact Nat.pos_of_ne_zero fun hzero ↦ by simp [hzero] at hindex
    have hx := Nat.mod_lt index hwidth
    have hy : index / file.size.width.toNat < file.size.height.toNat :=
      Nat.div_lt_of_lt_mul hindex
    have hentry := hfilled index (hstart.symm ▸ hindex)
      (.inr ⟨_, _, ⟨hx, hy⟩, order.covers _ _ hx hy, Nat.div_add_mod' ..⟩)
    rw [List.getElem?_eq_getElem (hlists.symm ▸ hindex)]
    refine hentry.trans ?_
    rw [List.getD_eq_getElem?_getD, List.getElem?_eq_getElem (hlists.symm ▸ hindex),
      Option.getD_some]
  · rw [List.getElem?_eq_none (by omega), Array.getElem?_eq_none]
    show (file.builder order).entries.size ≤ index
    unfold TemplateFile.builder
    omega

end TemplateFile

/-- A stream is read as a template if and only if it is the spelling of a file whose header and
contributions a builder finishes as that template, in whatever order the pixels are set. -/
theorem Template.load_eq_ok_iff_build (order : (file : TemplateFile) → PixelOrder file.size)
    {source : Source} {template : Template} :
    load source = .ok template ↔ source.failure = none ∧ ∃ file : TemplateFile,
      file.Declared ∧ source.bytes = file.bytes ∧
        (file.builder (order file)).build = .ok template := by
  rw [load_eq_ok_iff]
  constructor
  · intro hparts
    obtain ⟨⟨entries, hlists⟩, hbytes, hfailure⟩ := hparts
    let file := TemplateFile.ofLists template.toTemplateHeader entries
    have hheader : file.header = template.toTemplateHeader := TemplateFile.of_lists_header _ entries
    have hsame : file.lists = entries := TemplateFile.of_lists_lists template.toTemplateHeader _
    have hdeclared : file.Declared := by
      refine ⟨(List.length_map ..).trans hlists.count, fun entry hentry ↦ ?_⟩
      obtain ⟨original, horiginal, rfl⟩ := List.mem_map.mp hentry
      have hshort := (Sample.sound_of_entry_flaw (hlists.holds.2 original horiginal)).1
      rw [List.length_map]
      omega
    obtain ⟨hbuilder, hentries⟩ := TemplateFile.builder_entries hdeclared
      (TemplateHeader.size_of_valid hlists.header) (order file)
    refine ⟨hfailure, file, hdeclared, ?_, TemplateBuilder.build_eq_ok_iff.mpr ⟨?_, ?_, ?_, ?_⟩⟩
    · rw [hbytes, TemplateFile.bytes_eq_encode hheader.symm (hsame.symm ▸ hlists)]
    · rw [hbuilder, hheader]
      exact hlists.header
    · refine (file.builder_assembled (order file)).area_eq ?_
      rw [hbuilder, hheader]
      exact hlists.header
    · rw [hentries, hsame, hbuilder, hheader]
      exact hlists.table
    · rw [hbuilder, hheader]
  · intro hparts
    obtain ⟨hfailure, file, hdeclared, hbytes, hbuilt⟩ := hparts
    have hassembled := TemplateBuilder.lists_of_build hbuilt
    obtain ⟨hvalid, _, _, hsame⟩ := TemplateBuilder.build_eq_ok_iff.mp hbuilt
    have hheader : (file.builder (order file)).toTemplateHeader = file.header :=
      (file.fill_entries rfl _).1
    rw [hheader] at hvalid hsame
    obtain ⟨_, hentries⟩ := TemplateFile.builder_entries hdeclared
      (TemplateHeader.size_of_valid hvalid) (order file)
    rw [hentries] at hassembled
    exact ⟨⟨_, hassembled⟩, hbytes.trans (TemplateFile.bytes_eq_encode hsame hassembled), hfailure⟩

end Panorama
