import Panorama.Compositor.Render
import Panorama.Proofs.Compositor.Arrangement
import Panorama.Proofs.Frame.Source

/-!
# The sources of rendered frames

A compositor prepares a frame set by showing each frame through the crop. If the frames are
well-formed, every contribution of every source has a value in every plane.
-/

namespace Panorama

namespace Compositor

variable {compositor : Compositor} {frames : List Frame} {views : List FrameView}

/-- A frame as a compositor prepares it: of its format, and of the expected size behind its crop. -/
structure Prepares (compositor : Compositor) (expected : Canvas) (frame : Frame)
    (view : FrameView) : Prop where
  format : frame.format = compositor.format
  size : view.size = expected
  cropped : frame.view compositor.crop = .ok view

/-- Frames are prepared if their views are as expected. -/
theorem prepare_from_eq_ok_iff {index : Nat} {items : List (Frame × Canvas)} :
    compositor.prepareFrom index items = .ok views ↔
      List.Forall₂ (fun item view ↦ compositor.Prepares item.2 item.1 view) items views := by
  induction items generalizing index views with
  | nil => simp [prepareFrom, eq_comm]
  | cons item items ih =>
      unfold prepareFrom
      simp only [Failing.guard_eq_ok_iff, Failing.bind_eq_ok_iff, not_not, ih,
        List.forall₂_cons_left_iff]
      constructor
      · rintro ⟨hformat, view, hview, hsize, rest, hrest, hviews⟩
        cases hviews
        exact ⟨view, rest, ⟨hformat, hsize, hview⟩, hrest, rfl⟩
      · rintro ⟨view, rest, ⟨hformat, hsize, hview⟩, hrest, rfl⟩
        exact ⟨hformat, view, hview, hsize, rest, hrest, rfl⟩

/-- A frame set is prepared if it has one frame for each source, and the views are as expected. -/
theorem prepare_eq_ok_iff : compositor.prepare frames = .ok views ↔
    frames.length = compositor.inputs.length ∧
      List.Forall₂ (fun item view ↦ compositor.Prepares item.2 item.1 view)
        (frames.zip compositor.inputs) views := by
  unfold prepare
  by_cases hcount : frames.length = compositor.inputs.length
  · rw [if_neg (not_not.mpr hcount), and_iff_right hcount, prepare_from_eq_ok_iff]
  · rw [if_pos hcount]
    exact iff_of_false nofun fun h ↦ hcount h.1

/-- A prepared frame set has one frame and one view for each source. -/
theorem prepare_ok (h : compositor.prepare frames = .ok views) :
    frames.length = compositor.inputs.length ∧ views.length = compositor.inputs.length ∧
      ∀ (source : Nat) (frame : Frame) (view : FrameView), frames[source]? = some frame →
        views[source]? = some view →
        ∃ expected, compositor.inputs[source]? = some expected ∧
          compositor.Prepares expected frame view := by
  obtain ⟨hcount, hviews⟩ := prepare_eq_ok_iff.mp h
  refine ⟨hcount, ?_, fun source frame view hframe hview ↦ ?_⟩
  · rw [← hviews.length_eq, List.length_zip, hcount, Nat.min_self]
  · have hsource := (List.getElem?_eq_some_iff.mp hframe).1
    rw [hcount] at hsource
    have hexpected := List.getElem?_eq_getElem hsource
    have hitem : (frames.zip compositor.inputs)[source]? =
        some (frame, compositor.inputs[source]) :=
      List.getElem?_zip_eq_some.mpr ⟨hframe, hexpected⟩
    obtain ⟨_, hsame, hprepares⟩ := Failing.exists_of_forall₂ hviews hitem
    rw [hview, Option.some.injEq] at hsame
    exact ⟨_, hexpected, hsame ▸ hprepares⟩

/-- Every frame of a prepared set has a view that is as expected. -/
theorem exists_prepared (hprepare : compositor.prepare frames = .ok views) {source : Nat}
    {frame : Frame} (hframe : frames[source]? = some frame) : ∃ expected view,
      compositor.inputs[source]? = some expected ∧ views[source]? = some view ∧
        compositor.Prepares expected frame view := by
  obtain ⟨hframeCount, hviewCount, hviews⟩ := prepare_ok hprepare
  have hsource := (List.getElem?_eq_some_iff.mp hframe).1
  have hview := List.getElem?_eq_getElem (hsource.trans_eq (hframeCount.trans hviewCount.symm))
  obtain ⟨expected, hexpected, hprepares⟩ := hviews source frame _ hframe hview
  exact ⟨expected, _, hexpected, hview, hprepares⟩

/-- Every plane of a prepared view of a well-formed frame has a byte for every pixel. -/
theorem exists_full_plane (hvalid : compositor.Valid) (hframes : ∀ frame ∈ frames, frame.WellFormed)
    (hprepare : compositor.prepare frames = .ok views) {source index channel : Nat}
    (hsource : source < compositor.inputs.length) (hindex : index < compositor.format.planeCount)
    (hchannel : channel < compositor.format.channels) :
    ∃ view plane, views[source]? = some view ∧ view.planes[index]? = some plane ∧
      plane.IsFull channel := by
  have hframe := List.getElem?_eq_getElem (hsource.trans_eq (prepare_ok hprepare).1.symm)
  obtain ⟨expected, view, hexpected, hview, hprepares⟩ := exists_prepared hprepare hframe
  have hformed := hframes _ (List.mem_of_getElem? hframe)
  have hshows := hformed.shows_view hprepares.cropped
  rw [← hprepares.format] at hindex hchannel
  obtain ⟨plane, hplane, hwidth, hheight, _⟩ := hshows.plane index hindex
  have hpositive := PixelFormat.plane_size_pos
    (hvalid.inputs expected (List.mem_of_getElem? hexpected)) index
  rw [← hprepares.format, ← hprepares.size] at hpositive
  exact ⟨_, plane, hview, hplane, .of_shows hshows hplane hindex hchannel (hwidth ▸ hpositive.1)
    (hheight ▸ hpositive.2)⟩

/-! ### Values of contributions -/

/-- The value of a contribution in a plane: what its source shows at its point, and in the first
plane times the gain of the source. Chroma planes are sampled at half the coordinates. -/
def value? (compositor : Compositor) (output : OutputSpec) (views : List FrameView)
    (gains : List Float32) (index channel : Nat) (sample : Sample) : Option Float32 := do
  let view ← views[sample.source.toNat]?
  let plane ← view.planes[index]?
  let valueAt? := plane.sample? channel compositor.options.interpolation output.template.edge
    (compositor.fillByte index channel)
  if index = 0 then return (← valueAt? sample.x sample.y) * (← gains[sample.source.toNat]?)
  else valueAt? (sample.x * 0.5) (sample.y * 0.5)

/-- A contribution of a known source has a value in every plane. -/
theorem exists_value (hvalid : compositor.Valid) (hframes : ∀ frame ∈ frames, frame.WellFormed)
    (hprepare : compositor.prepare frames = .ok views) (output : OutputSpec) {row : List Float32}
    (hrow : row.length = compositor.inputs.length) {index channel : Nat}
    (hindex : index < compositor.format.planeCount)
    (hchannel : channel < compositor.format.channels)
    {sample : Sample} (hsource : sample.source.toNat < compositor.inputs.length) :
    ∃ value, compositor.value? output views row index channel sample = some value := by
  obtain ⟨view, plane, hview, hplane, hfull⟩ :=
    exists_full_plane hvalid hframes hprepare hsource hindex hchannel
  have hvalue := hfull.exists_sample (α := Float32) compositor.options.interpolation
    output.template.edge (compositor.fillByte index channel)
  have hgain := List.getElem?_eq_getElem (hsource.trans_eq hrow.symm)
  unfold value?
  simp only [Option.bind_eq_bind, hview, hplane, hgain, Option.bind_some]
  split
  · obtain ⟨value, hvalue⟩ := hvalue sample.x sample.y
    rw [hvalue]
    exact ⟨_, rfl⟩
  · exact hvalue _ _

end Compositor

end Panorama
