import Panorama.Proofs.Compositor.Reference
import Panorama.Proofs.Frame.Pool
import Panorama.Proofs.Stitcher.Refusals

/-!
# Reused buffers

What a stitcher makes of a frame set does not depend on the buffers that it works in. Its pool
holds well-formed frames only (`Sound`), its gains come from the frame sets alone
(`perform_all_core`), and rendering leaves nothing of what a buffer showed before, so that every
output is packed like one in a fresh frame.
-/

namespace Panorama

namespace Compositor

variable {compositor : Compositor}

/-- Blank frames can be made of every size that there is a frame of. -/
theorem AreTargets.exists_blank {targets : List Frame} (h : compositor.AreTargets targets)
    (size : Canvas) (hsize : size ∈ compositor.outputSizes) :
    ∃ fresh, Frame.blank compositor.format size = .ok fresh := by
  obtain ⟨frame, hframe⟩ := List.getElem?_of_mem hsize
  obtain ⟨target, _, hformed, hformat, hsame⟩ := h.get hframe
  rw [← hformat, ← hsame]
  exact hformed.exists_blank

/-- Fresh frames can be made wherever there are frames to render into. -/
theorem AreTargets.exists_fresh {targets : List Frame} (h : compositor.AreTargets targets) :
    ∃ fresh, compositor.freshTargets = .ok fresh ∧ compositor.AreTargets fresh := by
  obtain ⟨fresh, hfresh⟩ := Failing.exists_map_eq_ok h.exists_blank
  exact ⟨fresh, hfresh, (Failing.map_eq_ok_iff.mp hfresh).imp fun _ _ ↦ Frame.blank_ok⟩

end Compositor

/-- Two outcomes that cannot be told apart: the same failure, or outputs that are packed alike and
the same preview. -/
inductive StitchOutput.Alike : Outcome StitchOutput → Outcome StitchOutput → Prop where
  | failed (failure : Failure) : Alike (.error failure) (.error failure)
  | made {output result : StitchOutput}
    (packed : List.Forall₂ Frame.SamePacked output.outputs result.outputs)
    (shown : result.preview = output.preview) : Alike (.ok output) (.ok result)

namespace Stitcher

open StitcherCall (frameSets)

variable {stitcher : Stitcher} {frames : List Frame} {output : StitchOutput}
  {calls : List StitcherCall}

/-! ### Without the pool -/

/-- The gains of a compositor after a frame set. -/
def observe (compositor : Compositor) (gains : GainCompensator) (frames : List Frame) :
    GainCompensator :=
  match compositor.prepare frames with
  | .error _ => gains
  | .ok views => (gains.update views compositor.templates).2

/-- Processing a frame set changes the gains, and the pool as borrowing changes it or not at all. -/
theorem process_state (stitcher : Stitcher) (frames : List Frame) :
    ∃ pool, (stitcher.process frames).2
        = { stitcher with gains := observe stitcher.compositor stitcher.gains frames, pool } ∧
      (pool = stitcher.pool ∨ pool = (stitcher.pool.borrowAll stitcher.compositor.format
        stitcher.compositor.outputSizes).2) := by
  unfold process observe
  cases stitcher.compositor.prepare frames with
  | error failure => exact ⟨_, rfl, .inl rfl⟩
  | ok views =>
      dsimp only
      rcases stitcher.gains.update views stitcher.compositor.templates with ⟨_ | _, gains⟩
      · exact ⟨_, rfl, .inl rfl⟩
      · refine ⟨_, ?_, .inr rfl⟩
        dsimp only [compose]
        split <;> rfl

/-- After any calls, a stitcher has its compositor and its previews, and gains that come from the
frame sets alone. -/
theorem perform_all_core (stitcher : Stitcher) (calls : List StitcherCall) :
    (stitcher.performAll calls).compositor = stitcher.compositor ∧
      (stitcher.performAll calls).preview = stitcher.preview ∧
        (stitcher.performAll calls).gains
          = (frameSets calls).foldl (observe stitcher.compositor) stitcher.gains := by
  induction calls generalizing stitcher with
  | nil => exact ⟨rfl, rfl, rfl⟩
  | cons call calls ih =>
      cases call with
      | process frames =>
          obtain ⟨_, hstate, _⟩ := stitcher.process_state frames
          show ((stitcher.process frames).2.performAll calls).compositor = _ ∧
            ((stitcher.process frames).2.performAll calls).preview = _ ∧
              ((stitcher.process frames).2.performAll calls).gains
                = (frameSets calls).foldl _ (observe stitcher.compositor stitcher.gains frames)
          rw [hstate]
          exact ih _
      | recycle frames => exact ih _

/-- Processing succeeds if the frames suit the compositor, the gains can be updated, there are
buffers, and composing into them and making the preview succeed. -/
theorem process_eq_ok_iff : (stitcher.process frames).1 = .ok output ↔
    ∃ views targets, stitcher.compositor.prepare frames = .ok views ∧
      (stitcher.gains.update views stitcher.compositor.templates).1 = .ok () ∧
      (stitcher.pool.borrowAll stitcher.compositor.format stitcher.compositor.outputSizes).1
        = .ok targets ∧
      stitcher.compositor.render views (observe stitcher.compositor stitcher.gains frames).table
        targets = .ok output.outputs ∧
      stitcher.previewOf output.outputs = .ok output.preview := by
  unfold process observe
  cases hprepare : stitcher.compositor.prepare frames with
  | error failure => exact ⟨nofun, fun ⟨_, _, hviews, _⟩ ↦ nomatch hviews⟩
  | ok views =>
      dsimp only
      rcases hupdate : stitcher.gains.update views stitcher.compositor.templates with
        ⟨_ | _, gains⟩
      · refine ⟨nofun, fun ⟨_, _, hviews, hok, _⟩ ↦ ?_⟩
        cases hviews
        rw [hupdate] at hok
        cases hok
      · dsimp only [compose]
        rcases hborrow : stitcher.pool.borrowAll stitcher.compositor.format
          stitcher.compositor.outputSizes with ⟨_ | targets, pool⟩
        · refine ⟨nofun, fun ⟨_, _, _, _, hok, _⟩ ↦ ?_⟩
          cases hok
        · dsimp only [finish]
          simp only [Failing.bind_eq_ok_iff]
          constructor
          · intro hparts
            obtain ⟨outputs, houtputs, preview, hpreview, hresult⟩ := hparts
            cases hresult
            exact ⟨views, targets, rfl, by rw [hupdate], rfl, houtputs, hpreview⟩
          · intro hparts
            obtain ⟨_, _, hviews, _, htargets, houtputs, hpreview⟩ := hparts
            cases hviews
            cases htargets
            exact ⟨_, houtputs, _, hpreview, rfl⟩

/-! ### Sound stitchers -/

/-- A stitcher with a sound pool and a gain table of its shape, with one row per output. -/
structure Sound (stitcher : Stitcher) : Prop where
  buffers : stitcher.pool.Sound
  shaped : stitcher.gains.Shaped
  rows : stitcher.gains.templates = stitcher.compositor.outputs.length

/-- The frames that calls give back are well-formed. -/
def Recycled (calls : List StitcherCall) : Prop :=
  ∀ frames, .recycle frames ∈ calls → ∀ frame ∈ frames, frame.WellFormed

/-- The latest call gives back well-formed frames or nothing, like those before it. -/
theorem Recycled.concat (h : Recycled calls) {call : StitcherCall}
    (hcall : ∀ frames, call = .recycle frames → ∀ frame ∈ frames, frame.WellFormed) :
    Recycled (calls ++ [call]) := by
  intro frames hframes
  rcases List.mem_append.mp hframes with hbefore | hlast
  · exact h frames hbefore
  · exact hcall frames (List.mem_singleton.mp hlast).symm

/-- A stitcher is made of a compositor with gains for every output and previews of a size that its
format accepts. -/
theorem make_eq_ok_iff {compositor : Compositor} {gains : GainCompensator} {preview : Option Canvas}
    {limits : PoolLimits} : make compositor gains preview limits = .ok stitcher ↔
      gains.templates = compositor.outputs.length ∧
        (∀ size, preview = some size → compositor.format.checkSize size = .ok ()) ∧
          stitcher = ⟨compositor, gains, .start limits, preview⟩ := by
  unfold make
  rw [Failing.guard_eq_ok_iff, not_not]
  refine and_congr_right fun _ ↦ ?_
  cases preview with
  | none =>
      constructor
      · intro h
        cases h
        exact ⟨nofun, rfl⟩
      · rintro ⟨_, rfl⟩
        rfl
  | some size =>
      constructor
      · intro h
        obtain ⟨_, hsize, hresult⟩ := Failing.bind_eq_ok_iff.mp h
        cases hresult
        exact ⟨fun other hother ↦ Option.some.inj hother ▸ hsize, rfl⟩
      · rintro ⟨hsize, rfl⟩
        exact Failing.bind_eq_ok_iff.mpr ⟨(), hsize size rfl, rfl⟩

/-- A new stitcher is sound. -/
theorem sound_of_make {compositor : Compositor} {gains : GainCompensator} {preview : Option Canvas}
    {limits : PoolLimits} (hgains : gains.Reachable)
    (h : make compositor gains preview limits = .ok stitcher) :
    stitcher.Sound ∧ stitcher.compositor = compositor ∧ stitcher.gains = gains ∧
      stitcher.preview = preview := by
  obtain ⟨hrows, _, rfl⟩ := make_eq_ok_iff.mp h
  exact ⟨⟨FramePool.sound_start limits, hgains.shaped, hrows⟩, rfl, rfl, rfl⟩

/-- Processing keeps a stitcher sound. -/
theorem Sound.process (h : stitcher.Sound) (frames : List Frame) :
    (stitcher.process frames).2.Sound := by
  obtain ⟨pool, hstate, hpool⟩ := stitcher.process_state frames
  have hgains : (observe stitcher.compositor stitcher.gains frames).Shaped ∧
      (observe stitcher.compositor stitcher.gains frames).templates = stitcher.gains.templates := by
    unfold observe
    split
    · exact ⟨h.shaped, rfl⟩
    · obtain ⟨hshaped, _, htemplates⟩ := h.shaped.update _ stitcher.compositor.templates
      exact ⟨hshaped, htemplates⟩
  rw [hstate]
  refine ⟨?_, hgains.1, hgains.2.trans h.rows⟩
  rcases hpool with rfl | rfl
  · exact h.buffers
  · exact h.buffers.borrow_all.1

/-- Taking well-formed frames back keeps a stitcher sound. -/
theorem Sound.recycle (h : stitcher.Sound) {frames : List Frame}
    (hframes : ∀ frame ∈ frames, frame.WellFormed) : (stitcher.recycle frames).Sound :=
  ⟨h.buffers.release_all hframes, h.shaped, h.rows⟩

/-- Calls that give back well-formed frames keep a stitcher sound. -/
theorem Sound.perform_all (h : stitcher.Sound) (hrecycled : Recycled calls) :
    (stitcher.performAll calls).Sound := by
  induction calls generalizing stitcher with
  | nil => exact h
  | cons call calls ih =>
      refine ih ?_ fun frames hframes ↦ hrecycled frames (List.mem_cons_of_mem _ hframes)
      cases call with
      | process frames => exact h.process frames
      | recycle frames => exact h.recycle (hrecycled frames List.mem_cons_self)

/-- The gains of a sound stitcher that has processed a frame set suit its compositor. -/
theorem Sound.gains_shape (h : stitcher.Sound) {views : List FrameView}
    (hprepare : stitcher.compositor.prepare frames = .ok views)
    (hupdate : (stitcher.gains.update views stitcher.compositor.templates).1 = .ok ()) :
    (observe stitcher.compositor stitcher.gains frames).table.HasShape
      stitcher.compositor.outputs.length stitcher.compositor.inputs.length := by
  obtain ⟨hshaped, hinputs, htemplates⟩ :=
    h.shaped.update views stitcher.compositor.templates
  obtain ⟨hcount, _⟩ := GainCompensator.counted_of_update hupdate
  rw [(Compositor.prepare_ok hprepare).2.1] at hcount
  unfold observe
  rw [hprepare, hcount, ← hinputs, ← h.rows, ← htemplates]
  exact hshaped

/-! ### What is made of a frame set -/

/-- Previews of well-formed frames that look alike are the same. -/
theorem preview_eq {others outputs : List Frame} (stitcher : Stitcher)
    (hlike : List.Forall₂ (fun frame other ↦
      frame.WellFormed ∧ other.WellFormed ∧ frame.LooksLike other) outputs others) :
    stitcher.previewOf others = stitcher.previewOf outputs := by
  unfold previewOf
  cases hlike with
  | nil => rfl
  | cons hfirst _ =>
      obtain ⟨hformed, hother, hlooks⟩ := hfirst
      cases stitcher.preview with
      | none => rfl
      | some size => exact congrArg (some <$> ·) (hlooks.preview hformed hother size).symm

/-- What a sound stitcher makes of a frame set is what rendering into any other frames makes of it,
and so is the preview. -/
theorem Sound.render_into_others (h : stitcher.Sound) (hvalid : stitcher.compositor.Valid)
    (hprocess : (stitcher.process frames).1 = .ok output) :
    ∃ views targets, stitcher.compositor.prepare frames = .ok views ∧
      (stitcher.gains.update views stitcher.compositor.templates).1 = .ok () ∧
      stitcher.compositor.AreTargets targets ∧
      ∀ others, stitcher.compositor.AreTargets others → ∃ composed,
        stitcher.compositor.render views
          (observe stitcher.compositor stitcher.gains frames).table others = .ok composed ∧
        List.Forall₂ Frame.SamePacked output.outputs composed ∧
        stitcher.previewOf composed = .ok output.preview := by
  obtain ⟨views, targets, hprepare, hupdate, hborrow, hrender, hpreview⟩ :=
    process_eq_ok_iff.mp hprocess
  have htargets : stitcher.compositor.AreTargets targets := h.buffers.borrow_all.2 targets hborrow
  refine ⟨views, targets, hprepare, hupdate, htargets, fun others hothers ↦ ?_⟩
  obtain ⟨composed, hcomposed, hlike⟩ := Compositor.render_into_others hvalid
    (h.gains_shape hprepare hupdate).rows.ge htargets hothers hrender
  exact ⟨composed, hcomposed, hlike.imp fun _ _ ⟨hformed, hother, hlooks⟩ ↦
    hlooks.same_packed hformed hother, (stitcher.preview_eq hlike).trans hpreview⟩

/-! ### In other pools -/

variable {other : Stitcher}

/-- Two stitchers differ in their pools only. -/
structure Agrees (stitcher other : Stitcher) : Prop where
  compositor : other.compositor = stitcher.compositor
  gains : other.gains = stitcher.gains
  preview : other.preview = stitcher.preview

/-- Stitchers that agree finish a frame set alike, each in its own buffers. -/
theorem Agrees.finish (hagrees : stitcher.Agrees other) (hvalid : stitcher.compositor.Valid)
    (hrows : stitcher.compositor.outputs.length ≤ stitcher.gains.table.rows.length)
    {views : List FrameView} {targets others : List Frame}
    (htargets : stitcher.compositor.AreTargets targets)
    (hothers : stitcher.compositor.AreTargets others) :
    StitchOutput.Alike (stitcher.finish views targets) (other.finish views others) := by
  unfold Stitcher.finish
  rw [hagrees.compositor, hagrees.gains]
  cases hrender : stitcher.compositor.render views stitcher.gains.table targets with
  | error failure =>
      have hfault := stitcher.compositor.render_fails views stitcher.gains.table targets
      have hotherFault := stitcher.compositor.render_fails views stitcher.gains.table others
      cases hother : stitcher.compositor.render views stitcher.gains.table others with
      | error otherFailure =>
          rw [hfault failure hrender, hotherFault otherFailure hother]
          exact .failed .fault
      | ok composed =>
          obtain ⟨_, hcomposed, _⟩ :=
            Compositor.render_into_others hvalid hrows hothers htargets hother
          rw [hrender] at hcomposed
          cases hcomposed
  | ok composed =>
      obtain ⟨fresh, hfresh, hlike⟩ :=
        Compositor.render_into_others hvalid hrows htargets hothers hrender
      rw [hfresh]
      have hpreview : other.previewOf fresh = stitcher.previewOf composed := by
        rw [← stitcher.preview_eq hlike]
        unfold previewOf
        rw [hagrees.preview]
      show StitchOutput.Alike
        (stitcher.previewOf composed >>= fun preview ↦ .ok ⟨composed, preview⟩)
        (other.previewOf fresh >>= fun preview ↦ .ok ⟨fresh, preview⟩)
      rw [hpreview]
      cases stitcher.previewOf composed with
      | error failure => exact .failed failure
      | ok preview =>
          exact .made (hlike.imp fun _ _ ⟨hformed, hother, hlooks⟩ ↦
            hlooks.same_packed hformed hother) rfl

/-- Stitchers with sound pools that agree compose alike. -/
theorem Agrees.compose (hagrees : stitcher.Agrees other) (hvalid : stitcher.compositor.Valid)
    (hrows : stitcher.compositor.outputs.length ≤ stitcher.gains.table.rows.length)
    (hpool : stitcher.pool.Sound) (hotherPool : other.pool.Sound) (views : List FrameView) :
    StitchOutput.Alike (stitcher.compose views).1 (other.compose views).1 := by
  unfold Stitcher.compose
  dsimp only
  rw [hagrees.compositor]
  cases hborrow : (stitcher.pool.borrowAll stitcher.compositor.format
      stitcher.compositor.outputSizes).1 with
  | error error =>
      rw [hotherPool.borrow_all_eq_error_iff.mpr (hpool.borrow_all_eq_error_iff.mp hborrow)]
      exact .failed _
  | ok targets =>
      have htargets : stitcher.compositor.AreTargets targets := hpool.borrow_all.2 targets hborrow
      -- The other pool may lack frames that this one had, but then it can make them.
      obtain ⟨others, hothers⟩ := other.pool.exists_borrow_all htargets.exists_blank
      rw [hothers]
      refine Agrees.finish ?_ ?_ ?_ ?_ ?_
      · exact ⟨rfl, hagrees.gains, hagrees.preview⟩
      · exact hvalid
      · exact hrows
      · exact htargets
      · exact hotherPool.borrow_all.2 others hothers

/-- Sound stitchers that agree process a frame set alike. -/
theorem Sound.process_alike (h : stitcher.Sound) (hother : other.Sound)
    (hvalid : stitcher.compositor.Valid) (hagrees : stitcher.Agrees other) (frames : List Frame) :
    StitchOutput.Alike (stitcher.process frames).1 (other.process frames).1 := by
  unfold Stitcher.process
  rw [hagrees.compositor, hagrees.gains]
  cases hprepare : stitcher.compositor.prepare frames with
  | error failure => exact .failed failure
  | ok views =>
      dsimp only
      cases hupdate : (stitcher.gains.update views stitcher.compositor.templates).1 with
      | error failure => exact .failed failure
      | ok _ =>
          have hshape := h.gains_shape hprepare hupdate
          unfold observe at hshape
          rw [hprepare] at hshape
          refine Agrees.compose ?_ ?_ ?_ ?_ ?_ views
          · exact ⟨rfl, rfl, hagrees.preview⟩
          · exact hvalid
          · exact hshape.rows.ge
          · exact h.buffers
          · exact hother.buffers

/-- A sound stitcher that differs in its pool only makes the same of a frame set. -/
theorem Sound.process_same (h : stitcher.Sound) (hother : other.Sound)
    (hvalid : stitcher.compositor.Valid) (hcompositor : other.compositor = stitcher.compositor)
    (hgains : other.gains = stitcher.gains) (hpreview : other.preview = stitcher.preview)
    (hprocess : (stitcher.process frames).1 = .ok output) :
    ∃ result, (other.process frames).1 = .ok result ∧
      List.Forall₂ Frame.SamePacked output.outputs result.outputs ∧
        result.preview = output.preview := by
  have halike := h.process_alike hother hvalid ⟨hcompositor, hgains, hpreview⟩ frames
  rw [hprocess] at halike
  generalize hresult : (other.process frames).1 = outcome at halike ⊢
  cases halike with
  | made hpacked hshown => exact ⟨_, rfl, hpacked, hshown⟩

/-- Whatever well-formed frames a stitcher was given back, what it makes of a frame set is packed
like what its compositor makes of it in fresh frames with the gains that the stitcher shows
afterwards, and the preview is that of the fresh frames. Another pool, and other frames that are
given back, make no difference. -/
theorem reuse_invisible {format : PixelFormat} {crop : Option Crop} {outputs : List OutputSpec}
    {layout : OutputLayout} {options : CompositeOptions} {compositor : Compositor}
    {gains : GainCompensator} {preview : Option Canvas} {limits : PoolLimits}
    (hcompositor : Compositor.make format crop outputs layout options = .ok compositor)
    (hgains : gains.Reachable) (hmake : make compositor gains preview limits = .ok stitcher)
    (hrecycled : Recycled calls)
    (hprocess : ((stitcher.performAll calls).process frames).1 = .ok output) :
    (∃ composed,
      compositor.composite frames ((stitcher.performAll calls).process frames).2.gains.table
        = .ok composed ∧
      List.Forall₂ Frame.SamePacked output.outputs composed ∧
      stitcher.previewOf composed = .ok output.preview) ∧
    ∀ otherLimits other otherCalls, make compositor gains preview otherLimits = .ok other →
      Recycled otherCalls → frameSets otherCalls = frameSets calls →
        ∃ result, ((other.performAll otherCalls).process frames).1 = .ok result ∧
          List.Forall₂ Frame.SamePacked output.outputs result.outputs ∧
            result.preview = output.preview := by
  obtain ⟨hsound, hsame, hstart, hsize⟩ := sound_of_make hgains hmake
  obtain ⟨hkept, hpreview, hobserved⟩ := stitcher.perform_all_core calls
  have hcurrent := hsound.perform_all hrecycled
  have hvalid : (stitcher.performAll calls).compositor.Valid := by
    rw [hkept, hsame]
    exact Compositor.valid_of_make hcompositor
  constructor
  · obtain ⟨views, targets, hprepare, hupdate, htargets, hothers⟩ :=
      hcurrent.render_into_others hvalid hprocess
    obtain ⟨fresh, hfresh, hsuits⟩ := htargets.exists_fresh
    obtain ⟨composed, hcomposed, hpacked, hshown⟩ := hothers fresh hsuits
    have hshape := hcurrent.gains_shape hprepare hupdate
    obtain ⟨_, hstate, _⟩ := (stitcher.performAll calls).process_state frames
    refine ⟨composed, ?_, hpacked, ?_⟩
    · rw [hstate, ← hsame, ← hkept]
      unfold Compositor.composite Compositor.compositeInto
      rw [hfresh, Compositor.check_gains_eq_ok_iff.mpr hshape, hprepare]
      exact hcomposed
    · unfold previewOf at hshown ⊢
      rwa [hpreview] at hshown
  · intro otherLimits other otherCalls hother hotherRecycled hsets
    obtain ⟨hotherSound, hotherSame, hotherStart, hotherSize⟩ := sound_of_make hgains hother
    obtain ⟨hotherKept, hotherPreview, hotherObserved⟩ := other.perform_all_core otherCalls
    refine hcurrent.process_same (hotherSound.perform_all hotherRecycled) hvalid ?_ ?_ ?_ hprocess
    · rw [hotherKept, hotherSame, hkept, hsame]
    · rw [hotherObserved, hobserved, hsets, hotherSame, hotherStart, hsame, hstart]
    · rw [hotherPreview, hotherSize, hpreview, hsize]

/-- A stitcher of one source of one pixel, which it makes twice as bright, with previews of half the
size. -/
def spot : Stitcher where
  compositor := .spot
  gains := ⟨1, .bilinear, [⟨.fixed [2], 0⟩], ⟨[[1]]⟩, 0⟩
  pool := .start .standard
  preview := some ⟨2, 1⟩

/-- A frame set is processed, and a padded frame with other pixels is given back. -/
def spotCalls : List StitcherCall :=
  [.process [.grayRow 1 #[7]], .recycle [.grayRow 4 #[9, 9, 9, 9, 9, 9]]]

/-- The next frame set is composed into the frame that was given back like into a fresh one. -/
theorem spot_reuse : ∃ composed,
    ((spot.performAll spotCalls).process [.grayRow 1 #[5]]).1
        = .ok ⟨[.grayRow 4 #[10, 0, 0, 0, 0, 0]], some (.grayRow 2 #[4, 0])⟩ ∧
      Compositor.spot.composite [.grayRow 1 #[5]] ⟨[[2]]⟩ = .ok composed ∧
        List.Forall₂ Frame.SamePacked [.grayRow 4 #[10, 0, 0, 0, 0, 0]] composed := by
  have hgains : spot.gains.Reachable :=
    .make (show GainCompensator.make [.fixed [2]] 1 .bilinear = .ok spot.gains by decide +kernel)
  have hmake : make .spot spot.gains spot.preview .standard = .ok spot := rfl
  have hrecycled : Recycled spotCalls := by
    intro frames hframes frame hframe
    simp only [spotCalls, List.mem_cons, List.not_mem_nil, or_false, reduceCtorEq, false_or,
      StitcherCall.recycle.injEq] at hframes
    rw [hframes, List.mem_singleton] at hframe
    rw [hframe]
    exact Frame.gray_row_formed (by decide) (by decide) (by decide)
  have hprocess : ((spot.performAll spotCalls).process [.grayRow 1 #[5]]).1
      = .ok ⟨[.grayRow 4 #[10, 0, 0, 0, 0, 0]], some (.grayRow 2 #[4, 0])⟩ := by
    decide +kernel
  obtain ⟨⟨composed, hcomposed, hpacked, _⟩, _⟩ :=
    reuse_invisible Compositor.make_spot hgains hmake hrecycled hprocess
  exact ⟨composed, hprocess, hcomposed, hpacked⟩

end Stitcher

end Panorama
