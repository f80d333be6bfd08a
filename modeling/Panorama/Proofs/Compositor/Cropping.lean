import Panorama.Proofs.Compositor.Sources
import Panorama.Proofs.Gain.Showing

/-!
# Composing what a crop leaves

A compositor makes of a frame set what one without a crop makes of copies of the columns that the
crop leaves. Read `Compositor.Takes.prepare_copies` first: the copies are prepared too, and their
views show the same. What is painted depends on what the views show.
-/

namespace Panorama

/-- The copies of what a crop leaves of the frames of a set. -/
def Crop.copies (crop : Option Crop) (frames : List Frame) : List Frame :=
  frames.map fun frame ↦ frame.cropped crop

/-! ### Painting -/

/-- A plane is painted with the colors of its own channels only. -/
theorem Plane.paint_congr (plane : Plane) {channels : Nat} (hchannels : 0 < channels)
    {color? otherColor? : Nat → Nat → Nat → Option UInt8}
    (hsame : ∀ x y channel, channel < channels → color? x y channel = otherColor? x y channel)
    (rows left top width height : Nat) :
    plane.paint? rows channels left top width height color?
      = plane.paint? rows channels left top width height otherColor? := by
  unfold paint?
  simp only [hsame _ _ _ (Nat.mod_lt _ hchannels)]

namespace Compositor

variable {compositor : Compositor} {views others : List FrameView}

/-- Sources that show the same give a channel of the first plane the same byte. -/
theorem primary_byte_of_same (h : FrameView.ShowSame compositor.format views others)
    (output : OutputSpec) (gains : List Float32) (x y : Nat) {channel : Nat}
    (hchannel : channel < compositor.format.channels) :
    compositor.primaryByte? output views gains x y channel
      = compositor.primaryByte? output others gains x y channel := by
  have hvalue : compositor.primaryValue? output views gains channel
      = compositor.primaryValue? output others gains channel := by
    funext sample
    refine Failing.position_congr h fun view other hview ↦ ?_
    refine Failing.position_congr hview.planes fun plane otherPlane hplane ↦ ?_
    rw [hplane.sample hchannel]
  unfold primaryByte?
  rw [hvalue]

/-- Sources that show the same give a chroma plane the same byte. -/
theorem chroma_byte_of_same (h : FrameView.ShowSame compositor.format views others)
    (output : OutputSpec) (index x y : Nat) :
    compositor.chromaByte? output views index x y
      = compositor.chromaByte? output others index x y := by
  have hvalue : compositor.chromaValue? output views index
      = compositor.chromaValue? output others index := by
    funext sample
    refine Failing.position_congr h fun view other hview ↦ ?_
    refine Failing.position_congr hview.planes fun plane otherPlane hplane ↦ ?_
    exact hplane.sample compositor.format.channels_pos ..
  unfold chromaByte?
  rw [hvalue]

/-- Sources that show the same are painted alike. -/
theorem paint_plane_of_same (h : FrameView.ShowSame compositor.format views others)
    (output : OutputSpec) (gains : List Float32) (rect : PixelRect) (rows index : Nat)
    (plane : Plane) : compositor.paintPlane? output views gains rect rows index plane
      = compositor.paintPlane? output others gains rect rows index plane := by
  unfold paintPlane?
  dsimp only
  split
  · exact plane.paint_congr compositor.format.channels_pos
      (fun x y _ hchannel ↦ primary_byte_of_same h output gains x y hchannel) ..
  · simp only [chroma_byte_of_same h]

/-- Sources that show the same are rendered alike. -/
theorem render_of_same (h : FrameView.ShowSame compositor.format views others) (gains : GainTable)
    (targets : List Frame) :
    compositor.render views gains targets = compositor.render others gains targets := by
  unfold render renderFrame? paintOutput?
  simp only [paint_plane_of_same h]

/-! ### Copies -/

/-- The compositor that shows whole frames, and is the same otherwise. -/
def uncropped (compositor : Compositor) : Compositor := { compositor with crop := none }

/-- What is made of outputs with a crop is made of them without one, too. -/
theorem make_uncropped {format : PixelFormat} {crop : Option Crop} {outputs : List OutputSpec}
    {layout : OutputLayout} {options : CompositeOptions}
    (h : make format crop outputs layout options = .ok compositor) :
    make format none outputs layout options = .ok compositor.uncropped := by
  obtain ⟨hsome, hworkers, inputs, arrangement, houtputs, hinputs, harrangement, rfl⟩ :=
    make_eq_ok_iff.mp h
  exact make_eq_ok_iff.mpr
    ⟨hsome, hworkers, inputs, arrangement, houtputs, hinputs, harrangement, rfl⟩

/-- A set of well-formed frames that suit the compositor. -/
structure Takes (compositor : Compositor) (frames : List Frame) : Prop where
  formed : ∀ frame ∈ frames, frame.WellFormed
  prepared : ∃ views, compositor.prepare frames = .ok views

variable {frames : List Frame}

/-- The copy of a frame is prepared without a crop, and it shows the same. -/
theorem Prepares.copy {expected : Canvas} {frame : Frame} {view : FrameView}
    (h : compositor.Prepares expected frame view) (hformed : frame.WellFormed) :
    ∃ other, compositor.uncropped.Prepares expected (frame.cropped compositor.crop) other ∧
      view.ShowsSame compositor.format other := by
  obtain ⟨other, hother, hsame⟩ := hformed.view_cropped h.cropped
  rw [h.format] at hsame
  exact ⟨other, ⟨h.format, hsame.size ▸ h.size, hother⟩, hsame⟩

/-- The copies of frames are prepared without a crop, and they show the same. -/
theorem prepares_copies {items : List (Frame × Canvas)}
    (h : List.Forall₂ (fun item view ↦ compositor.Prepares item.2 item.1 view) items views)
    (hformed : ∀ item ∈ items, item.1.WellFormed) :
    ∃ others, List.Forall₂ (fun item other ↦ compositor.uncropped.Prepares item.2 item.1 other)
      (items.map (Prod.map (Frame.cropped · compositor.crop) id)) others ∧
        FrameView.ShowSame compositor.format views others := by
  induction h with
  | nil => exact ⟨[], .nil, .nil⟩
  | cons hfirst _ ih =>
      obtain ⟨hframe, hrest⟩ := List.forall_mem_cons.mp hformed
      obtain ⟨other, hother, hsame⟩ := hfirst.copy hframe
      obtain ⟨others, hothers, hall⟩ := ih hrest
      exact ⟨other :: others, .cons hother hothers, .cons hsame hall⟩

namespace Takes

/-- The copies are prepared without a crop, and they show what the frames show through it. -/
theorem prepare_copies (h : compositor.Takes frames) :
    ∃ views others, compositor.prepare frames = .ok views ∧
      compositor.uncropped.prepare (Crop.copies compositor.crop frames) = .ok others ∧
        FrameView.ShowSame compositor.format views others := by
  obtain ⟨views, hviews⟩ := h.prepared
  obtain ⟨hcount, hprepares⟩ := prepare_eq_ok_iff.mp hviews
  obtain ⟨others, hothers, hsame⟩ := prepares_copies hprepares fun item hitem ↦
    h.formed item.1 (List.of_mem_zip hitem).1
  refine ⟨views, others, hviews, prepare_eq_ok_iff.mpr ⟨?_, ?_⟩, hsame⟩
  · exact (List.length_map ..).trans hcount
  · show List.Forall₂ _ ((Crop.copies compositor.crop frames).zip compositor.inputs) others
    rwa [Crop.copies, List.zip_map_left]

/-- The crop leaves columns of every frame, which are copied. -/
theorem copied (h : compositor.Takes frames) :
    ∀ frame ∈ frames, frame.CopiedAs compositor.crop (frame.cropped compositor.crop) := by
  intro frame hframe
  obtain ⟨views, hviews⟩ := h.prepared
  obtain ⟨source, hsource⟩ := List.getElem?_of_mem hframe
  obtain ⟨_, _, _, _, hparts⟩ := exists_prepared hviews hsource
  obtain ⟨_, _, hcolumns, _⟩ := Frame.view_parts hparts.cropped
  exact (h.formed frame hframe).copied hcolumns

/-- What is composed of the frames is composed of the copies without a crop. -/
theorem composite_copies (h : compositor.Takes frames) (gains : GainTable) (targets : List Frame) :
    compositor.uncropped.compositeInto (Crop.copies compositor.crop frames) gains targets
      = compositor.compositeInto frames gains targets := by
  obtain ⟨views, others, hviews, hothers, hsame⟩ := h.prepare_copies
  unfold compositeInto
  rw [hviews, hothers]
  refine bind_congr fun _ ↦ ?_
  exact (render_of_same hsame gains targets).symm

end Takes

end Compositor

end Panorama
