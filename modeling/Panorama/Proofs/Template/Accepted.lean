import Panorama.Proofs.Failing
import Panorama.Proofs.Template.Grammar
import Panorama.Template.Builder

/-!
# Accepted templates

A template comes out of a builder or out of a file, and both ways accept the same ones: those with a
valid header and a list of valid contributions per pixel. `Template.Lists` says which lists a
template has. `load_eq_ok_iff` and `lists_of_build` read it off the two ways, and
`Obtained.lists` is what the rest of the library may assume of a template.
-/

namespace Panorama

open Number (LittleEndian.encode)

namespace Template

/-- A template has a valid header, and its table was made by adding these contributions, one list
per pixel of the output. -/
structure Lists (template : Template) (entries : List (List Sample)) : Prop where
  header : template.toTemplateHeader.validate = .ok ()
  count : entries.length = template.size.area
  table : entries.foldlM (fun table entry ↦ table.add template.inputs entry) SampleTable.empty
    = Except.ok template.table

end Template

namespace TemplateHeader

variable {header : TemplateHeader}

/-- A header is valid if it breaks no rule. -/
theorem validate_eq_ok_iff : header.validate = .ok () ↔ header.flaw? = none := by
  unfold validate
  cases header.flaw? <;> simp

/-- A valid header has an output of an acceptable size. -/
theorem size_of_valid (h : header.validate = .ok ()) : header.size.isTemplateSize := by
  rw [validate_eq_ok_iff, flaw?] at h
  by_contra hsize
  rw [if_pos (by simpa using hsize)] at h
  cases h

/-- A valid header has a possible number of sources. -/
theorem inputs_of_valid (h : header.validate = .ok ()) :
    ¬(header.inputs.length = 0 ∨ maxTemplateInputs < header.inputs.length) := by
  have hsize := size_of_valid h
  rw [validate_eq_ok_iff, flaw?, hsize, Bool.not_true, if_neg Bool.false_ne_true] at h
  rintro (hempty | hmany)
  · rw [List.length_eq_zero_iff.mp hempty] at h
    cases h
  · rw [if_pos (by simp [hmany])] at h
    cases h

/-- The sources of a valid header have acceptable sizes. -/
theorem input_of_valid (h : header.validate = .ok ())
    {size : Canvas} (hsize : size ∈ header.inputs) : size.isTemplateSize := by
  rw [validate_eq_ok_iff, flaw?] at h
  split at h
  · cases h
  · split at h
    · cases h
    · split at h
      · cases h
      · rename_i hnone
        obtain ⟨index, hindex⟩ := List.getElem?_of_mem hsize
        have hpair := List.mem_of_getElem? (Failing.zip_idx_get hindex)
        simpa using List.find?_eq_none.mp hnone _ hpair

/-- A valid header has a valid region. -/
theorem region_of_valid (h : header.validate = .ok ()) : header.region.flaw? = none := by
  rw [validate_eq_ok_iff, flaw?] at h
  split at h
  · cases h
  · split at h
    · cases h
    · split at h
      · cases h
      · exact Option.map_eq_none_iff.mp h

end TemplateHeader

/-- A region that breaks no rule is finite. -/
theorem Region.finite_of_flaw {region : Region} (h : region.flaw? = none) :
    region.x.isFinite ∧ region.y.isFinite ∧ region.width.isFinite ∧ region.height.isFinite := by
  unfold Region.flaw? at h
  split at h
  · cases h
  · rename_i hfinite
    simpa [and_assoc] using hfinite

/-- A size that templates may have spans fewer pixels than a 64-bit word counts. -/
theorem Canvas.area_lt_of_template_size {size : Canvas} (h : size.isTemplateSize) :
    size.area < 256 ^ 8 := by
  simp only [Canvas.isTemplateSize, Bool.and_eq_true, decide_eq_true_eq] at h
  obtain ⟨⟨_, hwidth⟩, hheight⟩ := h
  calc size.area ≤ maxTemplateDimension * maxTemplateDimension :=
        Nat.mul_le_mul hwidth hheight
    _ < 256 ^ 8 := by decide

namespace Template.Lists

variable {template : Template} {entries : List (List Sample)}

/-- The table of a template holds its lists, and each list is accepted. -/
theorem holds (h : template.Lists entries) : template.table.Holds entries ∧
    ∀ entry ∈ entries, Sample.entryFlaw? template.inputs entry = none := by
  have hall := SampleTable.holds_empty.add_all h.table
  rwa [List.nil_append] at hall

/-- The header of a template is spelled in one way. -/
theorem spells_header (h : template.Lists entries) (bytes : List UInt8) :
    TemplateReader.SpellsHeader template.toTemplateHeader bytes
      ↔ bytes = template.toTemplateHeader.encode := by
  obtain ⟨hx, hy, hwidth, hheight⟩ :=
    Region.finite_of_flaw (TemplateHeader.region_of_valid h.header)
  exact TemplateReader.spells_header_iff (TemplateHeader.inputs_of_valid h.header) hx hy hwidth
    hheight

/-- A template is written as its header, the number of its pixels, and their contributions. -/
theorem encode_eq (h : template.Lists entries) :
    template.encode = template.toTemplateHeader.encode ++
      (LittleEndian.encode 8 template.size.area ++ entries.flatMap Sample.encodeEntry) := by
  have hholds := h.holds.1
  have hentries : (List.range entries.length).map (fun index ↦
      (template.table.entry? index).getD []) = entries := by
    refine List.ext_getElem (by simp) fun index hindex _ ↦ ?_
    rw [List.length_map, List.length_range] at hindex
    rw [List.getElem_map, List.getElem_range, hholds.entry, List.getElem?_eq_getElem hindex,
      Option.getD_some]
  rw [encode, hholds.size, ← h.count, List.append_assoc]
  congr 2
  conv_rhs => rw [← hentries, List.flatMap_map]

/-- Every pixel of the output has a list of finite contributions of known sources. -/
theorem exists_lookup (h : template.Lists entries) {x y : Nat}
    (hx : x < template.size.width.toNat) (hy : y < template.size.height.toNat) :
    ∃ entry, template.lookup? x y = some entry ∧
      template.table.entry? (y * template.size.width.toNat + x) = some entry ∧
        ∀ sample ∈ entry, sample.source.toNat < template.inputs.length ∧
          sample.weight.isFinite := by
  obtain ⟨hholds, hentries⟩ := h.holds
  have hindex : y * template.size.width.toNat + x < entries.length := by
    calc y * template.size.width.toNat + x
        < y * template.size.width.toNat + template.size.width.toNat := Nat.add_lt_add_left hx _
      _ = (y + 1) * template.size.width.toNat := (Nat.succ_mul ..).symm
      _ ≤ template.size.height.toNat * template.size.width.toNat := Nat.mul_le_mul_right _ hy
      _ = entries.length := by
          rw [h.count, Canvas.area, Nat.mul_comm]
  have hentry := (hholds.entry _).trans (List.getElem?_eq_getElem hindex)
  refine ⟨_, ?_, hentry, fun sample hsample ↦ ?_⟩
  · rw [lookup?, if_pos ⟨hx, hy⟩, hentry]
  · obtain ⟨hsource, _, _, hweight⟩ := (Sample.sound_of_entry_flaw
      (hentries _ (List.getElem_mem hindex))).2 sample hsample
    exact ⟨hsource, hweight⟩

end Template.Lists

/-! ### Files -/

/-- A file holds a template exactly if it is the one way of writing it. -/
theorem Template.load_eq_ok_iff {source : Source} {template : Template} :
    load source = .ok template ↔ (∃ entries, template.Lists entries) ∧
      source.bytes = template.encode ∧ source.failure = none := by
  have hread : load source = .ok template ↔
      ∃ rest, TemplateReader.template source = .ok (template, rest) := by
    unfold load
    rw [StateT.run]
    cases TemplateReader.template source with
    | error failure => simp [bind, Except.bind]
    | ok result => simp [bind, Except.bind, pure, Except.pure, Prod.ext_iff]
  -- The reader takes spellings apart; that a valid header has one spelling makes them encodings.
  rw [hread, TemplateReader.reads_all_template source template, ← and_assoc]
  refine and_congr_left fun _ ↦ ?_
  constructor
  · intro hparts
    obtain ⟨front, entries, hfront, hvalid, _, hcount, htable, hbytes⟩ := hparts
    have hlists : template.Lists entries := ⟨hvalid, hcount, htable⟩
    refine ⟨⟨entries, hlists⟩, ?_⟩
    rw [hbytes, hlists.encode_eq, (hlists.spells_header front).mp hfront]
  · intro hparts
    obtain ⟨⟨entries, hlists⟩, hbytes⟩ := hparts
    exact ⟨template.toTemplateHeader.encode, entries, (hlists.spells_header _).mpr rfl,
      hlists.header, Canvas.area_lt_of_template_size (TemplateHeader.size_of_valid hlists.header),
      hlists.count, hlists.table, hbytes.trans hlists.encode_eq⟩

/-! ### Builders -/

namespace TemplateBuilder

/-- A builder that was started and then changed: its contributions by `set` and `mapSingle`, and
what its header says besides the sizes. -/
inductive Assembled : TemplateBuilder → Prop where
  | start (header : TemplateHeader) : Assembled (start header)
  | set {builder : TemplateBuilder} (h : Assembled builder) (x y : Nat) (entry : List Sample) :
      Assembled (builder.set x y entry)
  | mapSingle {builder : TemplateBuilder} (h : Assembled builder) (x y : Nat) (source : UInt16)
      (sourceX sourceY : Float32) : Assembled (builder.mapSingle x y source sourceX sourceY)
  | options {builder : TemplateBuilder} (h : Assembled builder) (region : Region)
      (blend : BlendMode) (gain : GainHint) (edge : EdgePolicy) :
      Assembled { builder with region, blend, gain, edge }

/-- Setting a pixel keeps the header. -/
theorem set_header (builder : TemplateBuilder) (x y : Nat) (entry : List Sample) :
    (builder.set x y entry).toTemplateHeader = builder.toTemplateHeader := by
  unfold set
  split <;> rfl

/-- Setting a pixel keeps the number of pixels. -/
theorem set_entries_size (builder : TemplateBuilder) (x y : Nat) (entry : List Sample) :
    (builder.set x y entry).entries.size = builder.entries.size := by
  unfold set
  split
  · exact Array.size_setIfInBounds
  · rfl

/-- A builder has one list of contributions per pixel of an output of acceptable size. -/
theorem Assembled.entries_size {builder : TemplateBuilder} (h : builder.Assembled) :
    builder.entries.size = if builder.size.isTemplateSize then builder.size.area else 0 := by
  induction h with
  | start header =>
      exact Array.size_replicate
  | set _ x y entry ih =>
      rw [set_entries_size, set_header, ih]
  | mapSingle _ x y source sourceX sourceY ih =>
      rw [TemplateBuilder.mapSingle, set_entries_size, set_header, ih]
  | options _ region blend gain edge ih =>
      exact ih

/-- A builder finishes a template if its header is valid, it has a list per pixel, and the lists can
be added. -/
theorem build_eq_ok_iff {builder : TemplateBuilder} {template : Template} :
    builder.build = .ok template ↔ builder.toTemplateHeader.validate = .ok () ∧
      builder.size.area = builder.entries.size ∧
        builder.entries.toList.foldlM (fun table entry ↦ table.add builder.inputs entry)
          SampleTable.empty = Except.ok template.table ∧
          template.toTemplateHeader = builder.toTemplateHeader := by
  unfold build
  rw [Failing.bind_eq_ok_iff]
  constructor
  · intro hparts
    obtain ⟨_, hvalid, hrest⟩ := hparts
    obtain ⟨hcount, hrest⟩ := Failing.guard_eq_ok_iff.mp hrest
    obtain ⟨table, htable, hresult⟩ := Failing.bind_eq_ok_iff.mp hrest
    cases hresult
    exact ⟨hvalid, not_not.mp hcount, htable, rfl⟩
  · intro hparts
    obtain ⟨hvalid, hcount, htable, hheader⟩ := hparts
    refine ⟨(), hvalid, Failing.guard_eq_ok_iff.mpr ⟨not_not.mpr hcount, ?_⟩⟩
    refine Failing.bind_eq_ok_iff.mpr ⟨template.table, htable, ?_⟩
    rw [← hheader]
    rfl

/-- What a builder finishes is a template with the lists of the builder. -/
theorem lists_of_build {builder : TemplateBuilder} {template : Template}
    (h : builder.build = .ok template) : template.Lists builder.entries.toList := by
  obtain ⟨hvalid, hcount, htable, hheader⟩ := build_eq_ok_iff.mp h
  rw [← Array.length_toList] at hcount
  rw [← hheader] at hvalid hcount htable
  exact ⟨hvalid, hcount.symm, htable⟩

/-- An assembled builder with a valid header has a list per pixel. -/
theorem Assembled.area_eq {builder : TemplateBuilder} (h : builder.Assembled)
    (hvalid : builder.toTemplateHeader.validate = .ok ()) :
    builder.size.area = builder.entries.size := by
  rw [h.entries_size, if_pos (TemplateHeader.size_of_valid hvalid)]

end TemplateBuilder

/-- A template that a builder finished or that was read from a file. -/
def Template.Obtained (template : Template) : Prop :=
  (∃ builder : TemplateBuilder, builder.Assembled ∧ builder.build = .ok template) ∨
    ∃ source, load source = .ok template

/-- Every template has a list of accepted contributions per pixel. -/
theorem Template.Obtained.lists {template : Template} (h : template.Obtained) :
    ∃ entries, template.Lists entries := by
  rcases h with ⟨builder, _, hbuild⟩ | ⟨source, hload⟩
  · exact ⟨_, TemplateBuilder.lists_of_build hbuild⟩
  · exact (load_eq_ok_iff.mp hload).1

end Panorama
