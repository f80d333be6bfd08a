import Panorama.Proofs.Compositor.Cropping
import Panorama.Proofs.Compositor.Reference
import Panorama.Proofs.Frame.AtPixels
import Panorama.Proofs.Frame.Packing

/-!
# Pixels that are copied

A contribution at whole coordinates is a pixel of its source, and if it is the only one and gains
are one, the output pixel is this pixel: no filter, edge policy or fill and no rounding changes it.
So a template that maps every pixel to the pixel at the same place reproduces its source. Read
`Compositor.value_at_pixel` first.
-/

namespace Panorama

open Number (Equals)

/-! ### Contributions at pixels -/

/-- A contribution is the pixel of its source at these coordinates. -/
structure Sample.IsAt (sample : Sample) (column row : Nat) : Prop where
  x : sample.x == .ofNat column
  y : sample.y == .ofNat row

/-- Its coordinates are these integers. -/
theorem Sample.IsAt.equals {sample : Sample} {column row : Nat} (h : sample.IsAt column row)
    (hcolumn : column < 2 ^ 23) (hrow : row < 2 ^ 23) :
    Equals sample.x column ∧ Equals sample.y row :=
  ⟨.of_beq h.x (Number.equals_nat _ hcolumn), .of_beq h.y (Number.equals_nat _ hrow)⟩

/-- A template maps every pixel to the pixel of one source at the same place. -/
def Template.IsIdentity (template : Template) (source : Nat) : Prop :=
  ∀ x y, x < template.size.width.toNat → y < template.size.height.toNat →
    ∃ sample, template.lookup? x y = some [sample] ∧ sample.source.toNat = source ∧
      sample.IsAt x y

namespace Compositor

variable {compositor : Compositor} {frames : List Frame} {views : List FrameView}
  {gains : GainTable} {output : OutputSpec} {sample : Sample} {source : Frame}
  {frame index channel x y column row : Nat}

/-! ### Sources -/

/-- Sources have sizes that templates may have. -/
theorem source_sizes (hvalid : compositor.Valid) (houtput : output ∈ compositor.outputs)
    (htemplate : output.template.Obtained) : ∀ size ∈ compositor.inputs, size.isTemplateSize := by
  obtain ⟨entries, hlists⟩ := htemplate.lists
  rw [← (hvalid.outputs output houtput).1]
  exact fun size hsize ↦ TemplateHeader.input_of_valid hlists.header hsize

/-- A plane of a prepared source has a byte for every pixel that the crop leaves of the frame, which
is that of the frame. -/
theorem exists_source_plane (hframes : ∀ frame ∈ frames, frame.WellFormed)
    (hprepare : compositor.prepare frames = .ok views) {number : Nat}
    (hsource : frames[number]? = some source)
    (hpixel : compositor.format.HasPixel (source.cropped compositor.crop).size
      index channel column row) :
    compositor.inputs[number]? = some (source.cropped compositor.crop).size ∧
      ∃ view plane, views[number]? = some view ∧ view.planes[index]? = some plane ∧
        (plane.width = (compositor.format.planeSize index
            (source.cropped compositor.crop).size).width ∧
          plane.height = (compositor.format.planeSize index
            (source.cropped compositor.crop).size).height) ∧
          plane.IsFull channel ∧ plane.pixel? column row channel
            = (source.cropped compositor.crop).pixel? index channel column row := by
  obtain ⟨expected, view, hexpected, hview, hprepares⟩ := exists_prepared hprepare hsource
  have hformed := hframes source (List.mem_of_getElem? hsource)
  obtain ⟨first, width, hcolumns, _, hsize, _⟩ := Frame.view_parts hprepares.cropped
  have hcopied := hformed.copied hcolumns
  -- The copy of what the crop leaves is as large as the view.
  obtain ⟨rfl, _⟩ := Frame.visible_columns_pos hformed.1 hcolumns
  rw [hcopied.size, ← hsize] at hpixel ⊢
  rw [← hprepares.format] at hpixel ⊢
  have hshows := hformed.shows_view hprepares.cropped
  obtain ⟨plane, hplane, hwidth, hheight, hpixels⟩ := hshows.plane index hpixel.plane
  have hcolumn := hpixel.column
  have hrow := hpixel.row
  rw [← hwidth] at hcolumn
  rw [← hheight] at hrow
  refine ⟨hexpected.trans (congrArg some hprepares.size.symm), _, plane, hview, hplane,
    ⟨hwidth, hheight⟩, .of_shows hshows hplane hpixel.plane hpixel.channel
      (Nat.zero_lt_of_lt hcolumn) (Nat.zero_lt_of_lt hrow), ?_⟩
  rw [(hpixels column row channel hcolumn hrow hpixel.channel).1]
  refine (hcopied.pixel index channel column row ?_).symm
  rwa [hcopied.format, hcopied.size, ← hsize]

/-! ### Values -/

/-- The only contribution at a pixel has the value of the pixel's byte, in every plane. A chroma
pixel is that of the block whose upper left pixel the contribution is at. -/
theorem value_at_pixel (output : OutputSpec) (hframes : ∀ frame ∈ frames, frame.WellFormed)
    (hprepare : compositor.prepare frames = .ok views)
    (hinputs : ∀ size ∈ compositor.inputs, size.isTemplateSize)
    (hsource : frames[sample.source.toNat]? = some source) {gains : List Float32}
    (hgain : gains[sample.source.toNat]? = some 1)
    (hpixel : compositor.format.HasPixel (source.cropped compositor.crop).size
      index channel column row)
    (hat : sample.IsAt ((compositor.format.subsampling index).toNat * column)
      ((compositor.format.subsampling index).toNat * row)) :
    ∃ byte value, (source.cropped compositor.crop).pixel? index channel column row = some byte ∧
      compositor.value? output views gains index channel sample = some value ∧
        Equals value byte.toNat := by
  obtain ⟨hinput, view, plane, hview, hplane, ⟨hwidth, hheight⟩, hfull, hsame⟩ :=
    exists_source_plane hframes hprepare hsource hpixel
  have hsize := hinputs _ (List.mem_of_getElem? hinput)
  simp only [Canvas.isTemplateSize, Bool.and_eq_true, decide_eq_true_eq] at hsize
  -- Coordinates inside a source that templates may have are far below what singles can count.
  have hlimit : maxTemplateDimension = 65536 := rfl
  obtain ⟨hcolumn, hrow⟩ := hpixel.scaled
  obtain ⟨hx, hy⟩ := hat.equals (by omega) (by omega)
  obtain ⟨hplaneWidth, hplaneHeight⟩ := compositor.format.plane_size_to_nat index
    (source.cropped compositor.crop).size
  have hcolumns : plane.width.toNat < 2 ^ 22 := by
    rw [hwidth, hplaneWidth]
    exact (Nat.div_le_self _ _).trans_lt (by omega)
  have hrows : plane.height.toNat < 2 ^ 22 := by
    rw [hheight, hplaneHeight]
    exact (Nat.div_le_self _ _).trans_lt (by omega)
  have hpoint {pointX pointY : Float32} (hpointX : Equals pointX column)
      (hpointY : Equals pointY row) :=
    hfull.sample_at_pixel hcolumns hrows hpointX hpointY (hwidth ▸ hpixel.column)
      (hheight ▸ hpixel.row) compositor.options.interpolation output.template.edge
      (compositor.fillByte index channel)
  unfold value?
  simp only [Option.bind_eq_bind, hview, hplane, hgain, Option.bind_some]
  rw [← hsame]
  by_cases hzero : index = 0
  · have hscale : (compositor.format.subsampling index).toNat = 1 := by
      rw [PixelFormat.subsampling_to_nat, if_neg (by omega)]
    rw [hscale, Nat.one_mul] at hx hy
    obtain ⟨byte, value, hbyte, hvalue, hnumber⟩ := hpoint hx hy
    rw [if_pos hzero, hvalue]
    have hone : Equals 1 1 := Number.equals_one
    exact ⟨byte, value * 1, hbyte, rfl, hnumber.mul hone (mul_one _) hnumber.held⟩
  · obtain ⟨_, _, hscale⟩ := PixelFormat.chroma_of_plane hpixel.plane hzero
    rw [hscale] at hx hy hcolumn hrow
    rw [if_neg hzero]
    exact hpoint (hx.halve (by omega)) (hy.halve (by omega))

/-! ### Contributions to a pixel -/

/-- The contributions to a pixel of a frame: those of the output that the pixel belongs to. -/
def entry? (compositor : Compositor) (frame x y : Nat) : Option (List Sample) := do
  let position ← compositor.owner? frame x y
  let output ← compositor.outputs[position]?
  let placement ← compositor.arrangement.placements[position]?
  output.template.lookup? (x - placement.rect.x.toNat) (y - placement.rect.y.toNat)

/-- A pixel with one contribution shows the value of this one. -/
theorem reference_of_single (views : List FrameView) (channel : Nat)
    (hgains : compositor.outputs.length ≤ gains.rows.length)
    (h : compositor.entry? frame ((compositor.format.subsampling index).toNat * x)
      ((compositor.format.subsampling index).toNat * y) = some [sample]) :
    ∃ output ∈ compositor.outputs, ∃ row ∈ gains.rows,
      compositor.reference? views gains frame index channel x y
        = (compositor.value? output views row index channel sample).map Number.roundToByte := by
  unfold entry? at h
  simp only [Option.bind_eq_bind, Option.bind_eq_some_iff] at h
  obtain ⟨position, howner, output, houtput, placement, hplacement, hentry⟩ := h
  have hposition := (List.getElem?_eq_some_iff.mp houtput).1
  have hrow := List.getElem?_eq_getElem (hposition.trans_le hgains)
  refine ⟨output, List.mem_of_getElem? houtput, _, List.mem_of_getElem? hrow, ?_⟩
  unfold reference?
  simp only [howner, houtput, hrow, hplacement, hentry, Option.bind_eq_bind, Option.bind_some]
  rfl

/-- The only contribution to a pixel of a plane is a pixel of a source. For a chroma pixel it is the
only contribution to the upper left pixel of its block, and the upper left pixel of such a block. -/
def MapsTo (compositor : Compositor) (frames : List Frame) (frame index x y : Nat)
    (source : Frame) (column row : Nat) : Prop :=
  let scale := (compositor.format.subsampling index).toNat
  ∃ sample, compositor.entry? frame (scale * x) (scale * y) = some [sample] ∧
    frames[sample.source.toNat]? = some source ∧ sample.IsAt (scale * column) (scale * row)

/-- What the reference says of such a pixel is the byte of the source. -/
theorem MapsTo.reference_eq (h : compositor.MapsTo frames frame index x y source column row)
    (channel : Nat) (hframes : ∀ frame ∈ frames, frame.WellFormed)
    (hprepare : compositor.prepare frames = .ok views) (hvalid : compositor.Valid)
    (htemplates : ∀ output ∈ compositor.outputs, output.template.Obtained)
    (hgains : gains.HasShape compositor.outputs.length compositor.inputs.length)
    (hunity : gains.IsUnity)
    (hpixel : compositor.format.HasPixel (source.cropped compositor.crop).size
      index channel column row) :
    compositor.reference? views gains frame index channel x y
      = (source.cropped compositor.crop).pixel? index channel column row := by
  obtain ⟨sample, hentry, hsource, hat⟩ := h
  obtain ⟨output, houtput, gainRow, hgainRow, hreference⟩ :=
    reference_of_single views channel hgains.rows.ge hentry
  have hinputs := source_sizes hvalid houtput (htemplates output houtput)
  have hnumber : sample.source.toNat < gainRow.length := by
    rw [hgains.gains gainRow hgainRow, ← (prepare_ok hprepare).1]
    exact (List.getElem?_eq_some_iff.mp hsource).1
  have hgain : gainRow[sample.source.toNat]? = some 1 := by
    rw [List.getElem?_eq_getElem hnumber,
      hunity gainRow hgainRow _ (List.getElem_mem hnumber)]
  obtain ⟨byte, value, hbyte, hvalue, hnumber⟩ :=
    value_at_pixel output hframes hprepare hinputs hsource hgain hpixel hat
  rw [hreference, hvalue, hbyte, Option.map_some, Number.round_to_byte_eq hnumber]

/-! ### Outputs that fill a frame -/

/-- An output has a frame of its own size and is the last one that goes into it. -/
structure Fills (compositor : Compositor) (position frame : Nat) (output : OutputSpec) : Prop where
  given : compositor.outputs[position]? = some output
  placed : ∃ placement, compositor.arrangement.placements[position]? = some placement ∧
    placement.frame = frame
  size : compositor.outputSizes[frame]? = some output.template.size
  last : ∀ later placement, position < later →
    compositor.arrangement.placements[later]? = some placement → placement.frame ≠ frame

/-- Every output in a frame of its own fills the frame. -/
theorem fills_of_separate {format : PixelFormat} {crop : Option Crop} {outputs : List OutputSpec}
    {options : CompositeOptions}
    (hmake : make format crop outputs .separate options = .ok compositor) {position : Nat}
    (houtput : outputs[position]? = some output) : compositor.Fills position position output := by
  obtain ⟨_, _, _, _, _, _, harrangement, rfl⟩ := make_eq_ok_iff.mp hmake
  cases harrangement
  refine ⟨houtput, ⟨⟨position, .ofCanvas output.template.size⟩, ?_, rfl⟩, ?_,
    fun later placement hlater hplacement ↦ ?_⟩
  · show (Arrangement.separate outputs).placements[position]? = _
    rw [Arrangement.separate, List.getElem?_mapIdx, houtput]
    rfl
  · show (Arrangement.separate outputs).frames[position]? = _
    rw [Arrangement.separate, List.getElem?_map, houtput]
    rfl
  · have hplaced : (Arrangement.separate outputs).placements[later]? = some placement := hplacement
    rw [Arrangement.separate, List.getElem?_mapIdx, Option.map_eq_some_iff] at hplaced
    obtain ⟨_, _, rfl⟩ := hplaced
    exact hlater.ne'

/-- Every pixel of a frame belongs to the output that fills it, at the same place. -/
theorem Fills.entry_eq (hvalid : compositor.Valid) {position : Nat}
    (h : compositor.Fills position frame output) (hx : x < output.template.size.width.toNat)
    (hy : y < output.template.size.height.toNat) :
    compositor.entry? frame x y = output.template.lookup? x y := by
  obtain ⟨placement, hplacement, hframe⟩ := h.placed
  obtain ⟨other, hother, hsuits⟩ := Failing.exists_of_forall₂ hvalid.arranged.places h.given
  obtain rfl : placement = other := Option.some.inj (hplacement.symm.trans hother)
  obtain ⟨size, hsize, hfits⟩ := hsuits.fits
  rw [hframe] at hsize
  obtain rfl : size = output.template.size := Option.some.inj (hsize.symm.trans h.size)
  have hwidth : placement.rect.width = output.template.size.width :=
    congrArg Canvas.width hsuits.size
  have hheight : placement.rect.height = output.template.size.height :=
    congrArg Canvas.height hsuits.size
  -- A rectangle of the size of its frame starts at the corner of the frame.
  simp only [PixelRect.fits, Bool.and_eq_true, decide_eq_true_eq, hwidth, hheight] at hfits
  have hleft : placement.rect.x.toNat = 0 := by omega
  have htop : placement.rect.y.toNat = 0 := by omega
  have hoccupies : compositor.occupies frame x y position := by
    simp [occupies, hplacement, hframe, PixelRect.contains, hleft, htop, hwidth, hheight, hx, hy]
  have howner : compositor.owner? frame x y = some position := by
    obtain ⟨rest, hrest⟩ := Nat.exists_eq_add_of_le
      (Nat.succ_le_of_lt (List.getElem?_eq_some_iff.mp h.given).1)
    have hlater : (((List.range rest).map (position + 1 + ·)).reverse).find?
        (compositor.occupies frame x y) = none := by
      refine List.find?_eq_none.mpr fun later hlater hoccupied ↦ ?_
      rw [List.mem_reverse, List.mem_map] at hlater
      obtain ⟨behind, _, rfl⟩ := hlater
      unfold occupies at hoccupied
      split at hoccupied
      · rename_i placed hplaced
        rw [Bool.and_eq_true, decide_eq_true_eq] at hoccupied
        exact h.last _ placed (by omega) hplaced hoccupied.1
      · cases hoccupied
    unfold owner?
    rw [hrest, List.range_add, List.reverse_append, List.find?_append, hlater, Option.none_or,
      List.range_succ, List.reverse_append, List.reverse_singleton, List.singleton_append,
      List.find?_cons_of_pos hoccupies]
  unfold entry?
  simp only [howner, h.given, hplacement, hleft, htop, Option.bind_eq_bind, Option.bind_some,
    Nat.sub_zero]

/-- An output that fills a frame with the pixels of a source at the same places maps every pixel of
the frame to that of the source. -/
theorem Fills.maps_to (hvalid : compositor.Valid) {position number : Nat}
    (h : compositor.Fills position frame output) (hsource : frames[number]? = some source)
    (hidentity : output.template.IsIdentity number)
    (hpixel : compositor.format.HasPixel output.template.size index channel x y) :
    compositor.MapsTo frames frame index x y source x y := by
  obtain ⟨hx, hy⟩ := hpixel.scaled
  obtain ⟨sample, hlookup, rfl, hat⟩ := hidentity _ _ hx hy
  exact ⟨sample, (h.entry_eq hvalid hx hy).trans hlookup, hsource, hat⟩

/-! ### Copies -/

/-- With gains of one, every frame set that a compositor takes is composed, and a pixel whose only
contribution is at whole coordinates inside its source has exactly the byte of the source there, in
every channel. A chroma pixel is made of what the upper left pixel of its block is made of: at even
coordinates it has the byte of the source's chroma pixel for these. An output that fills a frame
with every pixel mapped to the same place of one source reproduces this source, up to padding. All
of this is so for every format, filter, edge policy and fill, and with a crop the source is what the
crop leaves of it. -/
theorem copies_pixels {format : PixelFormat} {crop : Option Crop} {outputs : List OutputSpec}
    {layout : OutputLayout} {options : CompositeOptions} {targets : List Frame}
    (hmake : make format crop outputs layout options = .ok compositor)
    (htemplates : ∀ output ∈ outputs, output.template.Obtained)
    (htakes : compositor.Takes frames)
    (hgains : gains.HasShape outputs.length compositor.inputs.length) (hunity : gains.IsUnity)
    (htargets : compositor.AreTargets targets) :
    ∃ composed, compositor.compositeInto frames gains targets = .ok composed ∧
      compositor.AreTargets composed ∧
      (∀ (frame : Nat) (painted source : Frame) (index channel x y column row : Nat),
        composed[frame]? = some painted → format.HasPixel painted.size index channel x y →
          compositor.MapsTo frames frame index x y source column row →
            format.HasPixel (source.cropped crop).size index channel column row →
              ∃ byte, painted.pixel? index channel x y = some byte ∧
                (source.cropped crop).pixel? index channel column row = some byte) ∧
      ∀ (frame position number : Nat) (painted source : Frame) (output : OutputSpec),
        composed[frame]? = some painted → compositor.Fills position frame output →
          frames[number]? = some source → output.template.IsIdentity number →
            output.template.size = (source.cropped crop).size →
              (source.cropped crop).SamePacked painted := by
  have hvalid := valid_of_make hmake
  have hmade := made_of_make hmake
  obtain rfl := hmade.same_outputs
  obtain rfl := hmade.same_format
  obtain rfl := hmade.same_crop
  have hcopied := htakes.copied
  obtain ⟨hframes, views, hprepare⟩ := htakes
  obtain ⟨composed, hcomposed, hcomplete, hpixels⟩ :=
    exists_composed hvalid htemplates hframes hprepare hgains htargets
  have hreference {frame index x y column row : Nat} {source : Frame}
      (hmaps : compositor.MapsTo frames frame index x y source column row) (channel : Nat) :=
    hmaps.reference_eq channel hframes hprepare hvalid htemplates hgains hunity
  refine ⟨composed, hcomposed, hcomplete, ?_, ?_⟩
  · intro frame painted source index channel x y column row hpainted hpixel hmaps hinside
    obtain ⟨_, hsize, _, _, rfl⟩ := Failing.exists_of_forall₂ hcomplete.flip hpainted
    rw [← hreference hmaps channel hinside]
    exact hpixels frame _ painted hsize hpainted index channel x y hpixel
  · intro frame position number painted source output hpainted hfills hsource hidentity hsize
    obtain ⟨_, hframeSize, hformed, hformat, rfl⟩ :=
      Failing.exists_of_forall₂ hcomplete.flip hpainted
    obtain ⟨_, _, _, _, hprepares⟩ := exists_prepared hprepare hsource
    have hcopy := hcopied source (List.mem_of_getElem? hsource)
    have hcopyFormat := hcopy.format.trans hprepares.format
    have hfilled : painted.size = (source.cropped compositor.crop).size :=
      (Option.some.inj (hframeSize.symm.trans hfills.size)).trans hsize
    have hlike : (source.cropped compositor.crop).LooksLike painted := by
      refine ⟨hcopyFormat.trans hformat.symm, hfilled.symm, ?_⟩
      intro index channel x y hinside
      rw [hcopyFormat] at hinside
      obtain ⟨byte, hbyte, hsame⟩ :=
        hpixels frame _ painted hframeSize hpainted index channel x y (hfilled ▸ hinside)
      have hmaps := hfills.maps_to hvalid hsource hidentity (hsize ▸ hinside)
      rw [hbyte, ← hsame, hreference hmaps channel hinside]
    exact hlike.same_packed hcopy.formed hformed

end Compositor

/-! ### A copy of what a crop leaves -/

/-- A template that shows a source of four pixels as it is. -/
def Template.pane : Template where
  size := ⟨2, 2⟩
  inputs := [⟨2, 2⟩]
  region := .full
  blend := .hardSeam
  gain := .off
  edge := .azimuthal
  table := ⟨#[0, 1, 2, 3, 4], #[⟨0, 0, 0, 1⟩, ⟨0, 1, 0, 1⟩, ⟨0, 0, 1, 1⟩, ⟨0, 1, 1, 1⟩]⟩

/-- A builder makes the template. -/
theorem Template.pane_obtained : pane.Obtained :=
  .inl ⟨((((TemplateBuilder.start pane.toTemplateHeader).mapSingle 0 0 0 0 0).mapSingle 1 0 0 1 0
    ).mapSingle 0 1 0 0 1).mapSingle 1 1 0 1 1,
    ((((TemplateBuilder.Assembled.start _).mapSingle 0 0 0 0 0).mapSingle 1 0 0 1 0).mapSingle
      0 1 0 0 1).mapSingle 1 1 0 1 1, by decide +kernel⟩

/-- It maps every pixel to the pixel at the same place. -/
theorem Template.pane_is_identity : pane.IsIdentity 0 := by
  intro x y hx hy
  change x < 2 at hx
  change y < 2 at hy
  interval_cases x <;> interval_cases y <;>
    exact ⟨_, rfl, rfl, by decide +kernel, by decide +kernel⟩

/-- A compositor that shows the template in a frame of its own, and uses the last two columns of a
source of four. -/
def Compositor.pane : Compositor where
  format := .yuv420p
  crop := some ⟨2, 2⟩
  options := ⟨.biquadratic, some (1, 2, 3), none⟩
  outputs := [⟨.pane, .hardSeam, .full⟩]
  inputs := [⟨2, 2⟩]
  arrangement := ⟨[⟨2, 2⟩], [⟨0, ⟨0, 0, 2, 2⟩⟩], false⟩

/-- The compositor is made of its output. -/
theorem Compositor.make_pane :
    make .yuv420p (some ⟨2, 2⟩) pane.outputs .separate pane.options = .ok pane := by
  decide +kernel

/-- The last two columns of a source come out as they are, chroma included, whatever stood in the
target before. -/
theorem Compositor.copies_strip : ∃ source target composed painted,
    Frame.ofPacked .yuv420p ⟨4, 2⟩ [1, 2, 3, 4, 5, 6, 7, 8, 9, 10, 11, 12] = .ok source ∧
      Frame.ofPacked .yuv420p ⟨2, 2⟩ [13, 13, 13, 13, 13, 13] = .ok target ∧
        pane.compositeInto [source] ⟨[[1]]⟩ [target] = .ok composed ∧
          composed[0]? = some painted ∧ painted.packed? = some [3, 4, 7, 8, 10, 12] := by
  have hsource : Frame.ofPacked .yuv420p ⟨4, 2⟩ [1, 2, 3, 4, 5, 6, 7, 8, 9, 10, 11, 12]
      = .ok ⟨.yuv420p, ⟨4, 2⟩, [⟨4, 2, 4, #[1, 2, 3, 4, 5, 6, 7, 8]⟩, ⟨2, 1, 2, #[9, 10]⟩,
          ⟨2, 1, 2, #[11, 12]⟩]⟩ := by
    decide +kernel
  obtain ⟨target, htarget⟩ : ∃ target,
      Frame.ofPacked .yuv420p ⟨2, 2⟩ [13, 13, 13, 13, 13, 13] = .ok target := ⟨_, rfl⟩
  have htemplates : ∀ output ∈ pane.outputs, output.template.Obtained := by
    intro output houtput
    rw [List.mem_singleton.mp houtput]
    exact Template.pane_obtained
  have htakes : pane.Takes [⟨.yuv420p, ⟨4, 2⟩, [⟨4, 2, 4, #[1, 2, 3, 4, 5, 6, 7, 8]⟩,
      ⟨2, 1, 2, #[9, 10]⟩, ⟨2, 1, 2, #[11, 12]⟩]⟩] := by
    refine ⟨fun frame hframe ↦ ?_, _, rfl⟩
    rw [List.mem_singleton.mp hframe]
    exact (Frame.of_packed_formed hsource).1
  have hones : GainTable.unity? 1 1 = some ⟨[[1]]⟩ := by decide +kernel
  have htargets : pane.AreTargets [target] := .cons (Frame.of_packed_formed htarget) .nil
  obtain ⟨composed, hcomposed, hcomplete, _, hidentity⟩ :=
    copies_pixels make_pane htemplates htakes (GainTable.shape_of_unity hones)
      (GainTable.unity_is_unity hones) htargets
  obtain ⟨painted, hpainted, _⟩ := hcomplete.get (show pane.outputSizes[0]? = some ⟨2, 2⟩ from rfl)
  obtain ⟨_, _, ⟨bytes, hcopy, hbytes⟩, _⟩ := hidentity 0 0 0 painted _ _ hpainted
    (fills_of_separate make_pane rfl) rfl Template.pane_is_identity rfl
  have hsame := hcopy.symm.trans
    (show _ = some [3, 4, 7, 8, 10, 12] by decide +kernel)
  exact ⟨_, target, composed, painted, hsource, htarget, hcomposed, hpainted,
    hbytes.trans hsame⟩

end Panorama
