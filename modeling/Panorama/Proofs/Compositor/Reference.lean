import Panorama.Proofs.Blend
import Panorama.Proofs.Compositor.Rendering
import Panorama.Proofs.Compositor.Sources
import Panorama.Proofs.Gain.Shape
import Panorama.Proofs.Template.Accepted

/-!
# What a composition shows

`Compositor.reference?` says pixel by pixel what a composed frame shows, without strides, painting
order and prefill: a pixel belongs to the last output whose place contains it, and shows what the
contributions of the output's template come to. `composes_reference` proves it of everything that a
compositor composes.
-/

namespace Panorama

namespace Compositor

variable {compositor : Compositor} {frames : List Frame} {views : List FrameView}
  {gains : GainTable}

/-! ### The reference -/

/-- The place of an output is on this frame and contains this pixel. -/
def occupies (compositor : Compositor) (frame x y position : Nat) : Bool :=
  match compositor.arrangement.placements[position]? with
  | some placement => placement.frame = frame && placement.rect.contains x y
  | none => false

/-- The last output whose place contains a pixel of a frame. -/
def owner? (compositor : Compositor) (frame x y : Nat) : Option Nat :=
  (List.range compositor.outputs.length).reverse.find? (compositor.occupies frame x y)

/-- What a composed frame shows. The owner of a chroma pixel, and the contributions to it, are those
of the upper left one of the pixels that it belongs to. -/
def reference? (compositor : Compositor) (views : List FrameView) (gains : GainTable)
    (frame index channel x y : Nat) : Option UInt8 :=
  let scale := (compositor.format.subsampling index).toNat
  match compositor.owner? frame (scale * x) (scale * y) with
  | none => some (compositor.format.noSignal index)
  | some position => do
    let output ← compositor.outputs[position]?
    let row ← gains.rows[position]?
    let placement ← compositor.arrangement.placements[position]?
    let entry ← output.template.lookup? (scale * x - placement.rect.x.toNat)
      (scale * y - placement.rect.y.toNat)
    Blend.combine? output.blend (compositor.format.noSignal index)
      (compositor.value? output views row index channel) Number.roundToByte entry

/-! ### Painters and owners -/

section Painters

variable (hvalid : compositor.Valid)
  (htemplates : ∀ output ∈ compositor.outputs, output.template.Obtained)

include hvalid

/-- An output has a painter that covers a pixel of a plane if it occupies the pixel. -/
theorem painter_covers_eq (hgains : compositor.outputs.length ≤ gains.rows.length)
    {index position : Nat} (hindex : index < compositor.format.planeCount)
    (hposition : position < compositor.outputs.length) (frame x y : Nat) :
    ((compositor.painter? gains frame position).any fun painter ↦ Painter.Covers painter index x y)
      = compositor.occupies frame ((compositor.format.subsampling index).toNat * x)
          ((compositor.format.subsampling index).toNat * y) position := by
  have houtput := List.getElem?_eq_getElem hposition
  have hrow := List.getElem?_eq_getElem (hposition.trans_le hgains)
  obtain ⟨placement, hplacement, _⟩ := Failing.exists_of_forall₂ hvalid.arranged.places houtput
  rw [occupies, hplacement]
  dsimp only
  by_cases hframe : placement.frame = frame
  · have hpainter := painter_eq_some_iff.mpr
      ⟨_, _, placement, houtput, hrow, hplacement, hframe, rfl⟩
    rw [hpainter, Option.any_some, decide_eq_true hframe, Bool.true_and, Bool.eq_iff_iff,
      decide_eq_true_iff]
    exact hvalid.covers_iff hpainter hindex
  · have hpainter : compositor.painter? gains frame position = none := by
      simp only [painter?, houtput, hrow, hplacement, Option.bind_eq_bind, Option.bind_some,
        if_neg hframe]
    rw [hpainter, decide_eq_false hframe]
    rfl

/-- The last painter that covers a pixel is that of its owner. -/
theorem last_painter_eq (hgains : compositor.outputs.length ≤ gains.rows.length)
    {frame index x y : Nat} (hindex : index < compositor.format.planeCount) :
    lastPainter? (compositor.painters gains frame) index x y
      = (compositor.owner? frame ((compositor.format.subsampling index).toNat * x)
          ((compositor.format.subsampling index).toNat * y)).bind
            (compositor.painter? gains frame) := by
  rw [lastPainter?, painters_eq, ← List.filterMap_reverse, List.find?_filterMap, owner?]
  congr 1
  refine List.find?_congr fun position hposition ↦ ?_
  rw [List.mem_reverse, List.mem_range] at hposition
  exact painter_covers_eq hvalid hgains hindex hposition frame x y

/-- The byte of a painter is what the contributions of the pixel come to. -/
theorem color_eq (views : List FrameView) {frame position : Nat} {painter : Painter}
    {size : Canvas} {index channel x y : Nat} {entry : List Sample}
    (hpainter : compositor.painter? gains frame position = some painter)
    (hpixel : compositor.format.HasPixel size index channel x y)
    (hentry : painter.1.template.table.entry?
      (((compositor.format.subsampling index).toNat * y - painter.2.2.y.toNat)
          * painter.1.template.size.width.toNat
        + ((compositor.format.subsampling index).toNat * x - painter.2.2.x.toNat)) = some entry) :
    compositor.color? views painter index channel x y
      = (Blend.of painter.1.blend entry).evaluate? (compositor.format.noSignal index)
          (compositor.value? painter.1 views painter.2.1 index channel) Number.roundToByte := by
  by_cases hzero : index = 0
  · cases hzero
    rw [PixelFormat.subsampling_to_nat, if_neg (by omega), Nat.one_mul, Nat.one_mul] at hentry
    unfold color? PixelRect.area primaryByte?
    simp only [if_pos, hentry, Option.bind_eq_bind, Option.bind_some]
    rfl
  · obtain ⟨hchroma, hchannels, hscale⟩ := PixelFormat.chroma_of_plane hpixel.plane hzero
    obtain ⟨_, _, _, _, _, hrect, hsuits⟩ := hvalid.painter_suits hpainter
    have hcorner : painter.2.2.x.toNat % 2 = 0 ∧ painter.2.2.y.toNat % 2 = 0 :=
      hrect ▸ hsuits.even hchroma
    have hchannel : channel = 0 := by
      have := hpixel.channel
      omega
    cases hchannel
    -- Half a corner is whole, so that doubling a chroma pixel leads back to the pixel of the frame.
    have hleft : 2 * (x - painter.2.2.x.toNat / 2) = 2 * x - painter.2.2.x.toNat := by
      omega
    have htop : 2 * (y - painter.2.2.y.toNat / 2) = 2 * y - painter.2.2.y.toNat := by
      omega
    rw [hscale] at hentry
    unfold color? PixelRect.area chromaByte?
    simp only [if_neg hzero, hleft, htop, hentry, Option.bind_eq_bind, Option.bind_some]
    congr 1
    funext sample
    simp only [value?, chromaValue?, if_neg hzero]

include htemplates

/-- A pixel that a painter covers has contributions in the painter's template, possibly none, and
they are finite and of known sources. -/
theorem exists_contributions {frame position : Nat} {painter : Painter} {index x y : Nat}
    (hpainter : compositor.painter? gains frame position = some painter)
    (hindex : index < compositor.format.planeCount) (hcovers : painter.Covers index x y) :
    ∃ entry,
      painter.1.template.lookup?
        ((compositor.format.subsampling index).toNat * x - painter.2.2.x.toNat)
        ((compositor.format.subsampling index).toNat * y - painter.2.2.y.toNat) = some entry ∧
      painter.1.template.table.entry?
        (((compositor.format.subsampling index).toNat * y - painter.2.2.y.toNat)
            * painter.1.template.size.width.toNat
          + ((compositor.format.subsampling index).toNat * x - painter.2.2.x.toNat)) = some entry ∧
      ∀ sample ∈ entry, sample.source.toNat < compositor.inputs.length ∧
        sample.weight.isFinite := by
  obtain ⟨houtput, _, placement, _, _, hrect, hsuits⟩ := hvalid.painter_suits hpainter
  obtain ⟨hinputs, _⟩ := hvalid.outputs painter.1 (List.mem_of_getElem? houtput)
  obtain ⟨entries, hlists⟩ := (htemplates painter.1 (List.mem_of_getElem? houtput)).lists
  have hcontains := (hvalid.covers_iff hpainter hindex).mp hcovers
  have hsize : painter.2.2.size = painter.1.template.size := hrect ▸ hsuits.size
  have hwidth : painter.2.2.width = painter.1.template.size.width := congrArg Canvas.width hsize
  have hheight : painter.2.2.height = painter.1.template.size.height :=
    congrArg Canvas.height hsize
  simp only [PixelRect.contains, Bool.and_eq_true, decide_eq_true_eq, hwidth, hheight]
    at hcontains
  rw [← hinputs]
  exact hlists.exists_lookup (by omega) (by omega)

/-- Prepared well-formed frames can be rendered with a gain for every source. -/
theorem can_render (hframes : ∀ frame ∈ frames, frame.WellFormed)
    (hprepare : compositor.prepare frames = .ok views)
    (hgains : ∀ row ∈ gains.rows, row.length = compositor.inputs.length) :
    compositor.CanRender views gains := by
  intro frame size _ painter hpainter index channel x y hpixel hcovers
  obtain ⟨position, hpainter⟩ := exists_position hpainter
  obtain ⟨_, hrow, _⟩ := hvalid.painter_suits hpainter
  obtain ⟨entry, _, hentry, hsamples⟩ :=
    exists_contributions hvalid htemplates hpainter hpixel.plane hcovers
  rw [color_eq hvalid views hpainter hpixel hentry]
  exact Blend.exists_evaluate _ _ fun sample hsample ↦
    exists_value hvalid hframes hprepare painter.1 (hgains _ (List.mem_of_getElem? hrow))
      hpixel.plane hpixel.channel (hsamples sample hsample).1

/-- What is rendered is what the reference says. -/
theorem shown_eq_reference (hgains : compositor.outputs.length ≤ gains.rows.length)
    {frame : Nat} {size : Canvas} {index channel x y : Nat}
    (hpixel : compositor.format.HasPixel size index channel x y) :
    compositor.shown? views gains frame index channel x y
      = compositor.reference? views gains frame index channel x y := by
  rw [shown?, last_painter_eq hvalid hgains hpixel.plane, reference?]
  cases howner : compositor.owner? frame ((compositor.format.subsampling index).toNat * x)
      ((compositor.format.subsampling index).toNat * y) with
  | none => rfl
  | some position =>
      have hposition := List.mem_of_find?_eq_some howner
      rw [List.mem_reverse, List.mem_range] at hposition
      have hpainter := painter_covers_eq hvalid hgains hpixel.plane hposition frame x y
      rw [List.find?_some howner, Option.any_eq_true] at hpainter
      obtain ⟨painter, hpainter, hcovers⟩ := hpainter
      obtain ⟨entry, hlookup, hentry, hsamples⟩ :=
        exists_contributions hvalid htemplates hpainter hpixel.plane (of_decide_eq_true hcovers)
      obtain ⟨houtput, hrow, placement, hplacement, _, hrect, _⟩ := hvalid.painter_suits hpainter
      simp only [Option.bind_some, Option.bind_eq_bind, hpainter, houtput, hrow, hplacement, hrect,
        hlookup]
      rw [color_eq hvalid views hpainter hpixel hentry,
        Blend.evaluate_eq_combine _ _ fun sample hsample ↦ (hsamples sample hsample).2]

end Painters

/-! ### Compositions -/

/-- Rows of a gain table pass the check if they have a gain for every source. -/
theorem check_rows_eq_ok_iff {inputs index : Nat} {rows : List (List Float32)} :
    checkRows inputs index rows = .ok () ↔ ∀ row ∈ rows, row.length = inputs := by
  induction rows generalizing index with
  | nil => simp [checkRows]
  | cons row rows ih =>
      unfold checkRows
      by_cases hrow : row.length = inputs
      · rw [if_neg (not_not.mpr hrow), List.forall_mem_cons]
        dsimp only
        rw [ih]
        exact ⟨fun hrest ↦ ⟨hrow, hrest⟩, And.right⟩
      · rw [if_pos hrow, List.forall_mem_cons]
        exact ⟨nofun, fun hrows ↦ absurd hrows.1 hrow⟩

/-- A gain table passes the check if it has one row per output and one gain per source. -/
theorem check_gains_eq_ok_iff : compositor.checkGains gains = .ok () ↔
    gains.HasShape compositor.outputs.length compositor.inputs.length := by
  unfold checkGains
  split
  · rename_i hrows
    exact ⟨nofun, fun hgains ↦ absurd hgains.rows hrows⟩
  · rename_i hrows
    rw [check_rows_eq_ok_iff]
    exact ⟨fun hgains ↦ ⟨not_not.mp hrows, hgains⟩, fun hgains ↦ hgains.gains⟩

/-- Frames that show what is rendered can be rendered into again. -/
theorem ShowsAll.are_targets {composed : List Frame}
    (h : compositor.ShowsAll views gains composed) : compositor.AreTargets composed := by
  refine List.forall₂_iff_get.mpr ⟨h.count.symm, fun frame hframe hcomposed ↦ ?_⟩
  have hshows := h.shows frame _ _ (List.getElem?_eq_getElem hframe)
    (List.getElem?_eq_getElem hcomposed)
  exact ⟨hshows.formed, hshows.same_format, hshows.same_size⟩

/-- Prepared well-formed frames with one gain per output and source are composed, and every pixel of
the results has the byte that the reference says. -/
theorem exists_composed (hvalid : compositor.Valid)
    (htemplates : ∀ output ∈ compositor.outputs, output.template.Obtained)
    (hframes : ∀ frame ∈ frames, frame.WellFormed)
    (hprepare : compositor.prepare frames = .ok views)
    (hgains : gains.HasShape compositor.outputs.length compositor.inputs.length)
    {targets : List Frame} (htargets : compositor.AreTargets targets) :
    ∃ composed, compositor.compositeInto frames gains targets = .ok composed ∧
      compositor.AreTargets composed ∧
      ∀ (frame : Nat) (size : Canvas) (painted : Frame),
        compositor.outputSizes[frame]? = some size → composed[frame]? = some painted →
          ∀ index channel x y, compositor.format.HasPixel size index channel x y →
            ∃ byte, painted.pixel? index channel x y = some byte ∧
              compositor.reference? views gains frame index channel x y = some byte := by
  have hcan := can_render hvalid htemplates hframes hprepare hgains.gains
  obtain ⟨composed, hcomposed⟩ := exists_render hvalid hgains.rows.ge htargets hcan
  obtain ⟨hshows, _⟩ := shows_render hvalid htargets hcomposed
  refine ⟨composed, ?_, hshows.are_targets, ?_⟩
  · unfold compositeInto
    rw [check_gains_eq_ok_iff.mpr hgains, hprepare]
    exact hcomposed
  · intro frame size painted hsize hpainted index channel x y hpixel
    have hframe := hshows.shows frame size painted hsize hpainted
    have hvisible := hpixel
    rw [← hframe.same_format, ← hframe.same_size] at hvisible
    obtain ⟨byte, hbyte⟩ := hframe.formed.pixel hvisible
    refine ⟨byte, hbyte, ?_⟩
    rw [← shown_eq_reference hvalid htemplates hgains.rows.ge hpixel,
      ← hframe.pixel index channel x y hpixel, hbyte]

/-- Well-formed frames that a compositor prepares, with one gain per output and source, are composed
into any frames that suit the compositor. Whatever strides, padding and contents these have, every
byte of the results is the one that the reference says, where the outputs are where the layout
places them, and the view of a source is the frame behind the crop. -/
theorem composes_reference {format : PixelFormat} {crop : Option Crop} {outputs : List OutputSpec}
    {layout : OutputLayout} {options : CompositeOptions} {targets : List Frame}
    (hmake : make format crop outputs layout options = .ok compositor)
    (htemplates : ∀ output ∈ outputs, output.template.Obtained)
    (hframes : ∀ frame ∈ frames, frame.WellFormed)
    (hprepare : compositor.prepare frames = .ok views)
    (hgains : gains.HasShape outputs.length compositor.inputs.length)
    (htargets : compositor.AreTargets targets) :
    ∃ composed, compositor.compositeInto frames gains targets = .ok composed ∧
      compositor.AreTargets composed ∧ compositor.IsMadeOf format crop outputs layout options ∧
      (∀ (frame : Nat) (size : Canvas) (painted : Frame),
        compositor.outputSizes[frame]? = some size → composed[frame]? = some painted →
          ∀ index channel x y, compositor.format.HasPixel size index channel x y →
            ∃ byte, painted.pixel? index channel x y = some byte ∧
              compositor.reference? views gains frame index channel x y = some byte) ∧
      ∀ (source : Nat) (frame : Frame) (view : FrameView), frames[source]? = some frame →
        views[source]? = some view → compositor.inputs[source]? = some view.size ∧
          view.ShowsFrom frame (Crop.first compositor.crop) := by
  have hvalid := valid_of_make hmake
  have hmade := made_of_make hmake
  obtain rfl := hmade.same_outputs
  obtain ⟨composed, hcomposed, hcomplete, hpixels⟩ :=
    exists_composed hvalid htemplates hframes hprepare hgains htargets
  refine ⟨composed, hcomposed, hcomplete, hmade, hpixels, fun source frame view hframe hview ↦ ?_⟩
  obtain ⟨_, _, hviews⟩ := prepare_ok hprepare
  obtain ⟨expected, hexpected, hprepares⟩ := hviews source frame view hframe hview
  rw [hprepares.size]
  exact ⟨hexpected, (hframes frame (List.mem_of_getElem? hframe)).shows_view hprepares.cropped⟩

end Compositor

/-! ### A composition of one pixel and nothing else -/

/-- A template of two pixels, of which the first shows a source of one pixel. -/
def Template.spot : Template where
  size := ⟨2, 1⟩
  inputs := [⟨1, 1⟩]
  region := .full
  blend := .weighted
  gain := .off
  edge := .fill
  table := ⟨#[0, 1, 1], #[⟨0, 0, 0, 1⟩]⟩

/-- A builder makes the template. -/
theorem Template.spot_obtained : spot.Obtained :=
  .inl ⟨(TemplateBuilder.start spot.toTemplateHeader).mapSingle 0 0 0 0 0,
    (TemplateBuilder.Assembled.start _).mapSingle 0 0 0 0 0, by decide +kernel⟩

/-- A compositor that shows the template on the left half of a canvas of four pixels. -/
def Compositor.spot : Compositor where
  format := .gray8
  crop := none
  options := ⟨.bilinear, none, none⟩
  outputs := [⟨.spot, .weighted, ⟨0, 0, 0.5, 1⟩⟩]
  inputs := [⟨1, 1⟩]
  arrangement := ⟨[⟨4, 1⟩], [⟨0, ⟨0, 0, 2, 1⟩⟩], true⟩

/-- The compositor is made of its outputs and the canvas. -/
theorem Compositor.make_spot :
    make .gray8 none spot.outputs (.merged ⟨4, 1⟩) spot.options = .ok spot := by
  decide +kernel

/-- The mapped pixel of the canvas shows the source with its gain. The unmapped one next to it, and
what no output covers, show nothing of what was there before. -/
theorem Compositor.composes_spot : ∃ composed painted,
    spot.compositeInto [.grayRow 1 #[7]] ⟨[[2]]⟩ [.grayRow 4 #[9, 9, 9, 9, 9, 9]] = .ok composed ∧
      composed[0]? = some painted ∧ painted.pixel? 0 0 0 0 = some 14 ∧
        painted.pixel? 0 0 1 0 = some 0 ∧ painted.pixel? 0 0 2 0 = some 0 := by
  have htemplates : ∀ output ∈ spot.outputs, output.template.Obtained := by
    intro output houtput
    rw [List.mem_singleton.mp houtput]
    exact Template.spot_obtained
  have hframes : ∀ frame ∈ [Frame.grayRow 1 #[7]], frame.WellFormed := by
    intro frame hframe
    rw [List.mem_singleton.mp hframe]
    exact Frame.gray_row_formed (by decide) (by decide) (by decide)
  have hprepare : spot.prepare [.grayRow 1 #[7]]
      = .ok [⟨.gray8, ⟨1, 1⟩, [⟨#[7], 0, 1, 1, 1, 1⟩]⟩] := rfl
  have hgains : GainTable.HasShape ⟨[[2]]⟩ spot.outputs.length spot.inputs.length :=
    ⟨rfl, by decide⟩
  have htargets : spot.AreTargets [.grayRow 4 #[9, 9, 9, 9, 9, 9]] :=
    .cons ⟨Frame.gray_row_formed (by decide) (by decide) (by decide), rfl, rfl⟩ .nil
  obtain ⟨composed, hcomposed, hcomplete, _, hpixels, _⟩ :=
    composes_reference make_spot htemplates hframes hprepare hgains htargets
  obtain ⟨painted, hpainted, _⟩ := hcomplete.get (show spot.outputSizes[0]? = some ⟨4, 1⟩ from rfl)
  have hpixel (x : Nat) (hx : x < 4) : painted.pixel? 0 0 x 0
      = spot.reference? [⟨.gray8, ⟨1, 1⟩, [⟨#[7], 0, 1, 1, 1, 1⟩]⟩] ⟨[[2]]⟩ 0 0 0 x 0 := by
    obtain ⟨byte, hbyte, hreference⟩ :=
      hpixels 0 _ painted rfl hpainted 0 0 x 0 ⟨by decide, by decide, hx, by decide⟩
    rw [hbyte, hreference]
  exact ⟨composed, painted, hcomposed, hpainted, (hpixel 0 (by decide)).trans (by decide +kernel),
    (hpixel 1 (by decide)).trans (by decide +kernel),
    (hpixel 2 (by decide)).trans (by decide +kernel)⟩

end Panorama
