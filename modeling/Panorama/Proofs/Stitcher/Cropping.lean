import Panorama.Proofs.Compositor.Cropping
import Panorama.Proofs.Stitcher.Recycling

/-!
# Stitching what a crop leaves

A stitcher makes of frame sets what one without a crop makes of copies of the columns that the crop
leaves: outputs that are packed alike, the same previews and the same gains, after every cycle of
every run. So no byte beside the crop, no padding and nothing of the next row shows anywhere, and an
axis that wraps around does so at the border of the crop.
-/

namespace Panorama

open StitcherCall (frameSets)

/-- What a compositor makes of a frame set, and what is measured of it, another makes and measures
of the copies. -/
structure Compositor.SeesAs (compositor whole : Compositor) (frames copies : List Frame) :
    Prop where
  prepared : ∃ views others, compositor.prepare frames = .ok views ∧
    whole.prepare copies = .ok others ∧ FrameView.ShowSame compositor.format views others
  composed : ∀ gains targets,
    whole.compositeInto copies gains targets = compositor.compositeInto frames gains targets
  fresh : ∀ gains, whole.composite copies gains = compositor.composite frames gains
  measured : ∀ gains,
    Stitcher.observe whole gains copies = Stitcher.observe compositor gains frames

namespace Stitcher

variable {stitcher : Stitcher} {frames : List Frame} {calls : List StitcherCall}

/-- The stitcher that shows whole frames, and is the same otherwise. -/
def uncropped (stitcher : Stitcher) : Stitcher :=
  { stitcher with compositor := stitcher.compositor.uncropped }

/-- Without a crop, views that show the same are composed alike. -/
theorem compose_uncropped {views others : List FrameView}
    (h : FrameView.ShowSame stitcher.compositor.format views others) :
    stitcher.uncropped.compose others
      = ((stitcher.compose views).1, (stitcher.compose views).2.uncropped) := by
  have hborrow : stitcher.uncropped.pool.borrowAll stitcher.uncropped.compositor.format
      stitcher.uncropped.compositor.outputSizes
        = stitcher.pool.borrowAll stitcher.compositor.format stitcher.compositor.outputSizes := rfl
  unfold compose
  rw [hborrow]
  rcases stitcher.pool.borrowAll stitcher.compositor.format
    stitcher.compositor.outputSizes with ⟨_ | targets, pool⟩
  · rfl
  · unfold finish
    dsimp only
    rw [Compositor.render_of_same h]
    rfl

/-- Without a crop, the copies of a frame set are processed as the frame set is. -/
theorem process_uncropped (h : stitcher.compositor.Takes frames) :
    stitcher.uncropped.process (Crop.copies stitcher.compositor.crop frames)
      = ((stitcher.process frames).1, (stitcher.process frames).2.uncropped) := by
  obtain ⟨views, others, hviews, hothers, hsame⟩ := h.prepare_copies
  have hupdate := stitcher.gains.update_of_same hsame stitcher.compositor.templates
  unfold process
  rw [hviews, show stitcher.uncropped.compositor.prepare _ = _ from hothers]
  dsimp only
  rw [show stitcher.uncropped.gains.update others stitcher.uncropped.compositor.templates = _
    from hupdate.symm]
  rcases stitcher.gains.update views stitcher.compositor.templates with ⟨_ | _, gains⟩
  · rfl
  · have hcompose := compose_uncropped (show FrameView.ShowSame
      ({ stitcher with gains } : Stitcher).compositor.format views others from hsame)
    exact hcompose

/-- The copies of a frame set move the gains as the frame set does. -/
theorem observe_uncropped {compositor : Compositor} (h : compositor.Takes frames)
    (gains : GainCompensator) :
    observe compositor.uncropped gains (Crop.copies compositor.crop frames)
      = observe compositor gains frames := by
  obtain ⟨views, others, hviews, hothers, hsame⟩ := h.prepare_copies
  unfold observe
  rw [hviews, hothers]
  exact congrArg Prod.snd (gains.update_of_same hsame compositor.templates).symm

/-- The copies of several frame sets move the gains as the frame sets do. -/
theorem observe_all_uncropped {compositor : Compositor} {sets : List (List Frame)}
    (h : ∀ frames ∈ sets, compositor.Takes frames) (gains : GainCompensator) :
    (sets.map (Crop.copies compositor.crop)).foldl (observe compositor.uncropped) gains
      = sets.foldl (observe compositor) gains := by
  induction sets generalizing gains with
  | nil => rfl
  | cons frames sets ih =>
      obtain ⟨hframes, hsets⟩ := List.forall_mem_cons.mp h
      rw [List.map_cons, List.foldl_cons, List.foldl_cons, observe_uncropped hframes]
      exact ih hsets _

/-- Without a crop a stitcher is as sound as with one. -/
theorem Sound.uncropped (h : stitcher.Sound) : stitcher.uncropped.Sound :=
  ⟨h.buffers, h.shaped, h.rows⟩

/-- What a stitcher is made of makes one without a crop, too. -/
theorem make_uncropped {compositor : Compositor} {gains : GainCompensator} {preview : Option Canvas}
    {limits : PoolLimits} (h : make compositor gains preview limits = .ok stitcher) :
    make compositor.uncropped gains preview limits = .ok stitcher.uncropped := by
  obtain ⟨hrows, hsize, rfl⟩ := make_eq_ok_iff.mp h
  exact make_eq_ok_iff.mpr ⟨hrows, hsize, rfl⟩

/-- After runs of frame sets and of their copies, the next frame set and its copies are processed
alike, and the gains are the same. -/
theorem Sound.process_copies {other : Stitcher} {otherCalls : List StitcherCall}
    (h : stitcher.Sound) (hother : other.Sound) (hvalid : stitcher.uncropped.compositor.Valid)
    (hagrees : stitcher.uncropped.Agrees other) (hrecycled : Recycled calls)
    (hotherRecycled : Recycled otherCalls)
    (hsets : ∀ set ∈ frameSets calls, stitcher.compositor.Takes set)
    (hframes : stitcher.compositor.Takes frames)
    (hcopies : frameSets otherCalls
      = (frameSets calls).map (Crop.copies stitcher.compositor.crop)) :
    StitchOutput.Alike ((stitcher.performAll calls).process frames).1
      ((other.performAll otherCalls).process (Crop.copies stitcher.compositor.crop frames)).1 ∧
    ((other.performAll otherCalls).process (Crop.copies stitcher.compositor.crop frames)).2.gains
      = ((stitcher.performAll calls).process frames).2.gains := by
  obtain ⟨hkept, hshown, hobserved⟩ := stitcher.perform_all_core calls
  obtain ⟨hotherKept, hotherShown, hotherObserved⟩ := other.perform_all_core otherCalls
  have hlater : (stitcher.performAll calls).uncropped.Agrees (other.performAll otherCalls) := by
    refine ⟨?_, ?_, ?_⟩
    · rw [hotherKept, hagrees.compositor, Stitcher.uncropped, Stitcher.uncropped, hkept]
    · rw [hotherObserved, hcopies, hagrees.compositor, hagrees.gains]
      exact (observe_all_uncropped hsets _).trans hobserved.symm
    · rw [hotherShown, hagrees.preview]
      exact hshown.symm
  have hcurrent := (h.perform_all hrecycled).uncropped
  have hotherCurrent := hother.perform_all hotherRecycled
  rw [← hkept] at hframes ⊢
  have hprocess := process_uncropped hframes
  have halike := hcurrent.process_alike hotherCurrent ?_ hlater
    (Crop.copies (stitcher.performAll calls).compositor.crop frames)
  have hgains := (hlater.process
    (Crop.copies (stitcher.performAll calls).compositor.crop frames)).gains
  rw [hprocess] at halike hgains
  · exact ⟨halike, hgains⟩
  · show (stitcher.performAll calls).compositor.uncropped.Valid
    rw [hkept]
    exact hvalid

/-- A compositor without a crop sees of the copies what a compositor sees of the frames. -/
theorem sees_copies {compositor : Compositor} (h : compositor.Takes frames) :
    compositor.SeesAs compositor.uncropped frames (Crop.copies compositor.crop frames) where
  prepared := h.prepare_copies
  composed := h.composite_copies
  fresh gains := bind_congr fun targets ↦ h.composite_copies gains targets
  measured := observe_uncropped h

/-- A stitcher or a compositor with a crop makes of well-formed frames, whatever their strides and
their padding, what one without a crop makes of copies of the columns that the crop leaves. The
copies are accepted wherever the frames are, and after every cycle of every run the outputs are
packed alike, and the previews and the gains are the same, whatever either stitcher was given back.
Frames with the same copies cannot be told apart: nothing beside the crop is composed or measured.
-/
theorem crop_invisible {format : PixelFormat} {crop : Option Crop} {outputs : List OutputSpec}
    {layout : OutputLayout} {options : CompositeOptions} {compositor : Compositor}
    {gains : GainCompensator} {preview : Option Canvas} {limits : PoolLimits}
    (hcompositor : Compositor.make format crop outputs layout options = .ok compositor)
    (hgains : gains.Reachable) (hmake : make compositor gains preview limits = .ok stitcher) :
    ∃ whole other, Compositor.make format none outputs layout options = .ok whole ∧
      make whole gains preview limits = .ok other ∧
      (∀ frames, compositor.Takes frames →
        (∀ frame ∈ frames, frame.CopiedAs crop (frame.cropped crop)) ∧
        compositor.SeesAs whole frames (Crop.copies crop frames) ∧
        ∀ others, compositor.Takes others → Crop.copies crop others = Crop.copies crop frames →
          (∀ gains targets, compositor.compositeInto others gains targets
            = compositor.compositeInto frames gains targets) ∧
          ∀ gains, observe compositor gains others = observe compositor gains frames) ∧
      ∀ calls otherCalls frames, Recycled calls → Recycled otherCalls →
        (∀ set ∈ frameSets calls, compositor.Takes set) → compositor.Takes frames →
        frameSets otherCalls = (frameSets calls).map (Crop.copies crop) →
          StitchOutput.Alike ((stitcher.performAll calls).process frames).1
            ((other.performAll otherCalls).process (Crop.copies crop frames)).1 ∧
          ((other.performAll otherCalls).process (Crop.copies crop frames)).2.gains
            = ((stitcher.performAll calls).process frames).2.gains := by
  have hwhole := Compositor.make_uncropped hcompositor
  obtain rfl : compositor.crop = crop := (Compositor.made_of_make hcompositor).same_crop
  obtain ⟨hsound, rfl, _⟩ := sound_of_make hgains hmake
  have hother := make_uncropped hmake
  refine ⟨_, stitcher.uncropped, hwhole, hother, fun frames htakes ↦ ?_, ?_⟩
  · have hsees := sees_copies htakes
    refine ⟨htakes.copied, hsees, fun others hothers hsame ↦ ?_⟩
    have hotherSees := sees_copies hothers
    rw [hsame] at hotherSees
    constructor
    · intro gains targets
      rw [← hotherSees.composed, hsees.composed]
    · intro gains
      rw [← hotherSees.measured, hsees.measured]
  · intro calls otherCalls frames hrecycled hotherRecycled hsets hframes hcopies
    exact hsound.process_copies hsound.uncropped (Compositor.valid_of_make hwhole) (.refl _)
      hrecycled hotherRecycled hsets hframes hcopies

/-- A stitcher that uses the second column of its source. -/
def window : Stitcher :=
  { spot with compositor := { Compositor.spot with crop := some ⟨1, 1⟩ } }

/-- What is beside the second column, and what pads the row, shows nowhere: the next frame set is
processed as its copy is, after the copy of the frame set before. -/
theorem window_cropped :
    Crop.copies (some ⟨1, 1⟩) [.grayRow 3 #[9, 5, 9, 1]] = [.grayRow 1 #[5]] ∧
      StitchOutput.Alike
        ((window.performAll [.process [.grayRow 3 #[8, 7, 8]]]).process
          [.grayRow 3 #[9, 5, 9, 1]]).1
        ((spot.performAll spotCalls).process [.grayRow 1 #[5]]).1 := by
  have hcompositor : Compositor.make .gray8 (some ⟨1, 1⟩) Compositor.spot.outputs
      (.merged ⟨4, 1⟩) Compositor.spot.options = .ok window.compositor := by
    decide +kernel
  have hgains : spot.gains.Reachable :=
    .make (show GainCompensator.make [.fixed [2]] 1 .bilinear = .ok spot.gains by decide +kernel)
  have hmake : make window.compositor spot.gains spot.preview .standard = .ok window := rfl
  have hcopies : Crop.copies (some ⟨1, 1⟩) [.grayRow 3 #[9, 5, 9, 1]] = [.grayRow 1 #[5]] := by
    decide +kernel
  have hbefore : window.compositor.Takes [.grayRow 3 #[8, 7, 8]] :=
    ⟨List.forall_mem_singleton.mpr (Frame.gray_row_formed (by decide) (by decide) (by decide)),
      _, rfl⟩
  have hframes : window.compositor.Takes [.grayRow 3 #[9, 5, 9, 1]] :=
    ⟨List.forall_mem_singleton.mpr (Frame.gray_row_formed (by decide) (by decide) (by decide)),
      _, rfl⟩
  have hrow : (Frame.grayRow 4 #[9, 9, 9, 9, 9, 9]).WellFormed :=
    Frame.gray_row_formed (by decide) (by decide) (by decide)
  have hrecycled : Recycled spotCalls := by
    simpa [Recycled, spotCalls] using hrow
  have hsets : frameSets spotCalls
      = (frameSets [.process [.grayRow 3 #[8, 7, 8]]]).map (Crop.copies (some ⟨1, 1⟩)) := by
    decide +kernel
  obtain ⟨whole, other, hwhole, hother, _, hrun⟩ := crop_invisible hcompositor hgains hmake
  obtain rfl := Except.ok.inj (Compositor.make_spot.symm.trans hwhole)
  obtain rfl := Except.ok.inj
    ((show make .spot spot.gains spot.preview .standard = .ok spot from rfl).symm.trans hother)
  obtain ⟨halike, _⟩ := hrun [.process [.grayRow 3 #[8, 7, 8]]] spotCalls _ (by simp [Recycled])
    hrecycled (List.forall_mem_singleton.mpr hbefore) hframes hsets
  rw [hcopies] at halike
  exact ⟨hcopies, halike⟩

end Stitcher

end Panorama
