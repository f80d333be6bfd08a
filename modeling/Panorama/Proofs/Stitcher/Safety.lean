import Panorama.Proofs.Frame.Preview
import Panorama.Proofs.Gain.Measuring
import Panorama.Proofs.Stitcher.Refusals
import Panorama.Proofs.Stitcher.Reuse

/-!
# Stitchers break no precondition

A stitcher of well-made parts processes well-formed frames of any formats and sizes without ever
breaking a precondition: a frame set is composed, or refused for its sizes or for a lack of memory.
`Stitcher.Ready` is the invariant, and `Stitcher.Guarded` lists what it says about numbers and
positions that are used without a check.
-/

namespace Panorama

/-- Sizes that do not agree, or memory that is not to be had. -/
def Error.IsExpected (error : Error) : Prop :=
  error.kind = .sizeMismatch ∨ error.kind = .resourceExhaustion

/-- An expected error, and no broken precondition. -/
def Failure.IsExpected : Failure → Prop
  | .refused error => error.IsExpected
  | .fault => False

/-! ### Frames -/

namespace Frame.WellFormed

variable {frame : Frame}

/-- Viewing a well-formed frame fails for sizes only. -/
theorem view_fails (h : frame.WellFormed) (crop : Option Crop) :
    FailsOnly Failure.IsExpected (frame.view crop) := by
  cases hcolumns : frame.visibleColumns crop with
  | error error =>
      have hexpected : error.IsExpected :=
        frame.visible_columns_fails (fun _ ↦ .inl rfl) crop error hcolumns
      unfold Frame.view
      rw [hcolumns]
      exact .error hexpected
  | ok columns =>
      obtain ⟨view, hview⟩ := h.exists_view hcolumns
      rw [hview]
      exact .ok view

/-- The preview of a well-formed frame in a size that its format accepts fails for a lack of memory
only. -/
theorem preview_fails (h : frame.WellFormed) {Allowed : Failure → Prop}
    (hexhausted : ∀ exhaustion, Allowed (.refused (.exhausted exhaustion))) {size : Canvas}
    (hsize : frame.format.checkSize size = .ok ()) :
    FailsOnly Allowed (frame.preview size) := by
  cases hblank : blank frame.format size with
  | error error =>
      have hfails : FailsOnly (fun error ↦ Allowed (.refused error)) (blank frame.format size) :=
        blank_fails hexhausted (hsize ▸ .ok ())
      unfold Frame.preview
      rw [hsize, hblank]
      exact .error (hfails error hblank)
  | ok target =>
      obtain ⟨shown, hshown, _⟩ := h.exists_preview hblank
      rw [hshown]
      exact .ok shown

end Frame.WellFormed

/-- Every view of prepared well-formed frames has a brightness at every point. -/
theorem Compositor.measurable_views {compositor : Compositor} {frames : List Frame}
    {views : List FrameView} (hvalid : compositor.Valid)
    (hframes : ∀ frame ∈ frames, frame.WellFormed)
    (hprepare : compositor.prepare frames = .ok views) : ∀ view ∈ views, view.Measurable := by
  intro view hview
  obtain ⟨hframeCount, hviewCount, hviews⟩ := prepare_ok hprepare
  obtain ⟨source, hindex⟩ := List.getElem?_of_mem hview
  have hsource : source < compositor.inputs.length :=
    hviewCount ▸ (List.getElem?_eq_some_iff.mp hindex).1
  have hframe := List.getElem?_eq_getElem (hsource.trans_eq hframeCount.symm)
  obtain ⟨_, _, hprepares⟩ := hviews source _ view hframe hindex
  have hformat : view.format = compositor.format :=
    ((hframes _ (List.mem_of_getElem? hframe)).shows_view hprepares.cropped).format.trans
      hprepares.format
  have hfull (channel : Nat) (hchannel : channel < compositor.format.channels) :
      ∃ plane, view.planes[0]? = some plane ∧ plane.IsFull channel := by
    obtain ⟨other, plane, hother, hplane, hplaneFull⟩ := exists_full_plane hvalid hframes hprepare
      hsource (show 0 < compositor.format.planeCount by cases compositor.format <;> decide) hchannel
    rw [hindex, Option.some.injEq] at hother
    exact ⟨plane, hother ▸ hplane, hplaneFull⟩
  obtain ⟨plane, hplane, _⟩ := hfull 0 compositor.format.channels_pos
  refine FrameView.measurable_of_full hplane fun channel hchannel ↦ ?_
  obtain ⟨other, hother, hotherFull⟩ := hfull channel (hformat ▸ hchannel)
  rw [hplane, Option.some.injEq] at hother
  exact hother ▸ hotherFull

/-- Updating the gains fails for the number of frames only. -/
theorem GainCompensator.Tuned.update {gains : GainCompensator} (h : gains.Tuned)
    {views : List FrameView} {given : List Template} (hgiven : given.length = gains.templates)
    (hviews : ∀ view ∈ views, view.Measurable)
    (hlists : ∀ template ∈ given, ∃ entries, template.Lists entries) :
    FailsOnly Failure.IsExpected (gains.update views given).1 ∧
      (gains.update views given).2.Tuned ∧
        (gains.update views given).2.framesObserved ≤ gains.framesObserved + 1 := by
  by_cases hcount : views.length = gains.inputs
  · obtain ⟨hok, htuned, hobserved⟩ := h.update_ok hcount hgiven hviews hlists
    rw [hok]
    exact ⟨.ok (), htuned, hobserved.le⟩
  · rw [update_refused hcount]
    exact ⟨.error (.inl rfl), h, Nat.le_succ _⟩

/-- The frames that a call is given. -/
def StitcherCall.frames : StitcherCall → List Frame
  | .process frames => frames
  | .recycle frames => frames

namespace Stitcher

variable {stitcher : Stitcher} {frames : List Frame} {calls : List StitcherCall}

/-! ### One call -/

/-- A stitcher of well-made parts, between any two calls. -/
structure Ready (stitcher : Stitcher) : Prop where
  sound : stitcher.Sound
  tuned : stitcher.gains.Tuned
  valid : stitcher.compositor.Valid
  templates : ∀ output ∈ stitcher.compositor.outputs, output.template.Obtained
  preview : ∀ size, stitcher.preview = some size →
    stitcher.compositor.format.checkSize size = .ok ()

/-- A frame set has become outputs that suit the compositor and a preview without padding, or it was
refused with an expected error. -/
structure Completes (compositor : Compositor) (outcome : Outcome StitchOutput) : Prop where
  failure : FailsOnly Failure.IsExpected outcome
  outputs : ∀ output, outcome = .ok output → compositor.AreTargets output.outputs
  preview : ∀ output shown, outcome = .ok output → output.preview = some shown →
    shown.WellFormed ∧ ∀ plane ∈ shown.planes, plane.IsTight shown.format.channels

/-- The preview of composed frames is a well-formed frame without padding. -/
theorem preview_of_tight {outputs : List Frame} {shown : Frame}
    (houtputs : stitcher.compositor.AreTargets outputs)
    (hpreview : stitcher.previewOf outputs = .ok (some shown)) :
    shown.WellFormed ∧ ∀ plane ∈ shown.planes, plane.IsTight shown.format.channels := by
  unfold previewOf at hpreview
  split at hpreview
  · rename_i size first rest _
    obtain ⟨_, _, ⟨hformed, _⟩, _⟩ := List.forall₂_cons_right_iff.mp houtputs
    obtain ⟨other, hother, hresult⟩ := Failing.bind_eq_ok_iff.mp hpreview
    cases hresult
    obtain ⟨target, htarget⟩ := Frame.blank_of_preview hother
    obtain ⟨shown, hshown, hwell, _, htight⟩ := hformed.exists_preview htarget
    rw [hother] at hshown
    cases hshown
    exact ⟨hwell, htight⟩
  · cases hpreview

namespace Ready

/-- The gains of a ready stitcher take in every prepared frame set with one frame per source. -/
theorem update (h : stitcher.Ready) (hframes : ∀ frame ∈ frames, frame.WellFormed)
    {views : List FrameView} (hprepare : stitcher.compositor.prepare frames = .ok views) :
    FailsOnly Failure.IsExpected
        (stitcher.gains.update views stitcher.compositor.templates).1 ∧
      (stitcher.gains.update views stitcher.compositor.templates).2.Tuned ∧
        (stitcher.gains.update views stitcher.compositor.templates).2.framesObserved
          ≤ stitcher.gains.framesObserved + 1 := by
  refine h.tuned.update ?_ (Compositor.measurable_views h.valid hframes hprepare) ?_
  · exact (List.length_map ..).trans h.sound.rows.symm
  · intro template htemplate
    obtain ⟨output, houtput, rfl⟩ := List.mem_map.mp htemplate
    exact (h.templates output houtput).lists

/-- Processing keeps a stitcher ready and counts at most one update. -/
theorem process (h : stitcher.Ready) (hframes : ∀ frame ∈ frames, frame.WellFormed) :
    (stitcher.process frames).2.Ready ∧ (stitcher.process frames).2.gains.framesObserved
      ≤ stitcher.gains.framesObserved + 1 := by
  have hgains : (observe stitcher.compositor stitcher.gains frames).Tuned ∧
      (observe stitcher.compositor stitcher.gains frames).framesObserved
        ≤ stitcher.gains.framesObserved + 1 := by
    unfold observe
    cases hprepare : stitcher.compositor.prepare frames with
    | error failure => exact ⟨h.tuned, Nat.le_succ _⟩
    | ok views => exact (h.update hframes hprepare).2
  have hsound := h.sound.process frames
  obtain ⟨pool, hstate, _⟩ := stitcher.process_state frames
  rw [hstate] at hsound ⊢
  exact ⟨⟨hsound, hgains.1, h.valid, h.templates, h.preview⟩, hgains.2⟩

/-- Taking well-formed frames back keeps a stitcher ready. -/
theorem recycle (h : stitcher.Ready) (hframes : ∀ frame ∈ frames, frame.WellFormed) :
    (stitcher.recycle frames).Ready :=
  ⟨h.sound.recycle hframes, h.tuned, h.valid, h.templates, h.preview⟩

/-- The preview of composed frames fails for a lack of memory only. -/
theorem preview_of_fails (h : stitcher.Ready) {Allowed : Failure → Prop}
    (hexhausted : ∀ exhaustion, Allowed (.refused (.exhausted exhaustion))) {outputs : List Frame}
    (houtputs : stitcher.compositor.AreTargets outputs) :
    FailsOnly Allowed (stitcher.previewOf outputs) := by
  unfold previewOf
  split
  · rename_i size first rest hsize
    obtain ⟨_, _, ⟨hformed, hformat, _⟩, _⟩ := List.forall₂_cons_right_iff.mp houtputs
    have haccepted := h.preview size hsize
    rw [← hformat] at haccepted
    exact .bind (hformed.preview_fails hexhausted haccepted) fun _ _ ↦ .ok _
  · exact .ok none

/-- Composing a prepared frame set that the gains took in fails for a lack of memory only. -/
theorem compose_fails (h : stitcher.Ready) {Allowed : Failure → Prop}
    (hexhausted : ∀ exhaustion, Allowed (.refused (.exhausted exhaustion)))
    (hframes : ∀ frame ∈ frames, frame.WellFormed) {views : List FrameView}
    (hprepare : stitcher.compositor.prepare frames = .ok views)
    (hupdate : (stitcher.gains.update views stitcher.compositor.templates).1 = .ok ()) :
    FailsOnly Allowed ({ stitcher with gains := (stitcher.gains.update views
      stitcher.compositor.templates).2 }.compose views).1 := by
  refine Stitcher.compose_fails ?_ fun targets hborrow ↦ ?_
  · exact FramePool.borrow_all_fails hexhausted _ fun size hsize ↦
      h.valid.arranged.frames size hsize ▸ .ok ()
  · have htargets : stitcher.compositor.AreTargets targets :=
      h.sound.buffers.borrow_all.2 targets hborrow
    have hshape := h.sound.gains_shape hprepare hupdate
    unfold observe at hshape
    rw [hprepare] at hshape
    have hcan := Compositor.can_render h.valid h.templates hframes hprepare hshape.gains
    obtain ⟨composed, hcomposed⟩ :=
      Compositor.exists_render h.valid hshape.rows.ge htargets hcan
    refine ⟨hcomposed ▸ .ok composed, fun outputs houtputs ↦ ?_⟩
    obtain ⟨hshows, _⟩ := Compositor.shows_render h.valid htargets houtputs
    exact h.preview_of_fails hexhausted hshows.are_targets

/-- Processed frames suit the compositor, and the preview is theirs. -/
theorem processed (h : stitcher.Ready) {output : StitchOutput}
    (hprocess : (stitcher.process frames).1 = .ok output) :
    stitcher.compositor.AreTargets output.outputs ∧
      stitcher.previewOf output.outputs = .ok output.preview := by
  obtain ⟨_, targets, _, _, hborrow, hrender, hpreview⟩ := process_eq_ok_iff.mp hprocess
  have htargets : stitcher.compositor.AreTargets targets :=
    h.sound.buffers.borrow_all.2 targets hborrow
  exact ⟨(Compositor.shows_render h.valid htargets hrender).1.are_targets, hpreview⟩

/-- A ready stitcher completes every well-formed frame set. -/
theorem completes (h : stitcher.Ready) (hframes : ∀ frame ∈ frames, frame.WellFormed) :
    Completes stitcher.compositor (stitcher.process frames).1 where
  failure := by
    refine process_fails ?_ fun views hprepare ↦
      ⟨(h.update hframes hprepare).1, h.compose_fails (fun _ ↦ .inr rfl) hframes hprepare⟩
    exact Compositor.prepare_fails (fun _ ↦ .inl rfl) _ fun frame hframe ↦
      (hframes frame hframe).view_fails _
  outputs output hprocess := (h.processed hprocess).1
  preview output shown hprocess hshown := by
    obtain ⟨houtputs, hpreview⟩ := h.processed hprocess
    exact preview_of_tight houtputs (hshown ▸ hpreview)

/-! ### All calls -/

/-- A ready stitcher completes every cycle of calls with well-formed frames. -/
theorem completes_cycles (h : stitcher.Ready)
    (hcalls : ∀ call ∈ calls, ∀ frame ∈ call.frames, frame.WellFormed) :
    ∀ cycle ∈ stitcher.cycles calls, Completes stitcher.compositor cycle.outcome := by
  induction calls generalizing stitcher with
  | nil => nofun
  | cons call calls ih =>
      obtain ⟨hcall, hlater⟩ := List.forall_mem_cons.mp hcalls
      intro cycle hcycle
      cases call with
      | process frames =>
          rcases List.mem_cons.mp hcycle with rfl | hcycle
          · exact h.completes hcall
          · obtain ⟨_, hstate, _⟩ := stitcher.process_state frames
            have hcompositor : (stitcher.perform (.process frames)).compositor
                = stitcher.compositor := by
              rw [perform, hstate]
            rw [← hcompositor]
            exact ih (h.process hcall).1 hlater cycle hcycle
      | recycle frames => exact ih (h.recycle hcall) hlater cycle hcycle

/-- Calls with well-formed frames keep a stitcher ready, and there is at most one update per
call. -/
theorem perform_all (h : stitcher.Ready)
    (hcalls : ∀ call ∈ calls, ∀ frame ∈ call.frames, frame.WellFormed) :
    (stitcher.performAll calls).Ready ∧ (stitcher.performAll calls).gains.framesObserved
      ≤ stitcher.gains.framesObserved + calls.length := by
  induction calls generalizing stitcher with
  | nil => exact ⟨h, Nat.le_refl _⟩
  | cons call calls ih =>
      obtain ⟨hcall, hlater⟩ := List.forall_mem_cons.mp hcalls
      rw [List.length_cons]
      cases call with
      | process frames =>
          obtain ⟨hready, hcount⟩ := h.process hcall
          obtain ⟨hlast, htotal⟩ := ih hready hlater
          refine ⟨hlast, htotal.trans ?_⟩
          omega
      | recycle frames =>
          obtain ⟨hlast, htotal⟩ := ih (h.recycle hcall) hlater
          exact ⟨hlast, htotal.trans (Nat.add_le_add_left (Nat.le_succ _) _)⟩

end Ready

/-- What the parts of a stitcher rely on without a check: policies neither divide by zero nor clamp
between bounds in the wrong order, counters fit in their words, every output has its gains and its
place in a frame that there is, and buffers suit the compositor and have room in their rows. -/
structure Guarded (stitcher : Stitcher) : Prop where
  policies : ∀ tracked ∈ stitcher.gains.states, ∀ policy, tracked.mode = .adaptive policy →
    0 < policy.intervalFrames ∧ 0 < policy.sampleStep ∧ policy.minGain ≤ policy.maxGain
  observed : stitcher.gains.framesObserved < 2 ^ 32
  recomputed : ∀ tracked ∈ stitcher.gains.states, tracked.recomputed < 2 ^ 32
  gains : stitcher.gains.table.HasShape stitcher.compositor.outputs.length stitcher.gains.inputs
  places : stitcher.compositor.arrangement.placements.length = stitcher.compositor.outputs.length
  frames : ∀ placement ∈ stitcher.compositor.arrangement.placements,
    placement.frame < stitcher.compositor.outputSizes.length
  buffers : ∀ targets, (stitcher.pool.borrowAll stitcher.compositor.format
      stitcher.compositor.outputSizes).1 = .ok targets →
    stitcher.compositor.AreTargets targets ∧
      ∀ target ∈ targets, ∀ plane ∈ target.planes, 0 < plane.stride.toNat

/-- A ready stitcher is guarded as long as its counters fit in their words. -/
theorem Ready.guarded (h : stitcher.Ready) (hcount : stitcher.gains.framesObserved < 2 ^ 32) :
    stitcher.Guarded where
  policies tracked htracked policy hpolicy := by
    have hmode := h.tuned.modes tracked htracked
    rw [hpolicy] at hmode
    exact AdaptivePolicy.sound_of_validate hmode
  observed := hcount
  recomputed tracked htracked := (h.tuned.counted tracked htracked).trans_lt hcount
  gains := by
    rw [← h.sound.rows]
    exact h.sound.shaped
  places := h.valid.arranged.places.length_eq.symm
  frames placement hplacement := by
    obtain ⟨position, hposition⟩ := List.getElem?_of_mem hplacement
    obtain ⟨_, _, hsuits⟩ := Failing.exists_of_forall₂ h.valid.arranged.places.flip hposition
    obtain ⟨_, hframe, _⟩ := hsuits.fits
    exact (List.getElem?_eq_some_iff.mp hframe).1
  buffers targets hborrow := by
    have htargets : stitcher.compositor.AreTargets targets :=
      h.sound.buffers.borrow_all.2 targets hborrow
    refine ⟨htargets, fun target htarget plane hplane ↦ ?_⟩
    obtain ⟨frame, hframe⟩ := List.getElem?_of_mem htarget
    obtain ⟨_, _, hformed, _⟩ := Failing.exists_of_forall₂ htargets.flip hframe
    exact hformed.stride_pos hplane

/-- A stitcher that is made of well-made parts is ready, and has no updates yet. -/
theorem ready_of_make {format : PixelFormat} {crop : Option Crop} {outputs : List OutputSpec}
    {layout : OutputLayout} {options : CompositeOptions} {compositor : Compositor}
    {modes : List GainMode} {inputs : Nat} {interpolation : Interpolation}
    {gains : GainCompensator} {preview : Option Canvas} {limits : PoolLimits}
    (hcompositor : Compositor.make format crop outputs layout options = .ok compositor)
    (htemplates : ∀ output ∈ outputs, output.template.Obtained)
    (hgains : GainCompensator.make modes inputs interpolation = .ok gains)
    (hmake : make compositor gains preview limits = .ok stitcher) :
    stitcher.Ready ∧ stitcher.gains.framesObserved = 0 ∧ stitcher.compositor = compositor := by
  obtain ⟨htuned, hstart⟩ := GainCompensator.tuned_of_make hgains
  obtain ⟨hsound, _⟩ := sound_of_make (.make hgains) hmake
  obtain ⟨_, hpreview, rfl⟩ := make_eq_ok_iff.mp hmake
  obtain rfl := (Compositor.made_of_make hcompositor).same_outputs
  exact ⟨⟨hsound, htuned, Compositor.valid_of_make hcompositor, htemplates, hpreview⟩, hstart, rfl⟩

/-- A stitcher of checked parts never breaks a precondition, whatever the formats and sizes of the
well-formed frames that it is given in fewer than `2 ^ 32` calls, and even if its gains are for
another number of sources. Every frame set is composed or refused with an expected error, and
between any two calls everything that is used without a check is as it must be. -/
theorem never_faults {format : PixelFormat} {crop : Option Crop} {outputs : List OutputSpec}
    {layout : OutputLayout} {options : CompositeOptions} {compositor : Compositor}
    {modes : List GainMode} {inputs : Nat} {interpolation : Interpolation}
    {gains : GainCompensator} {preview : Option Canvas} {limits : PoolLimits}
    (hcompositor : Compositor.make format crop outputs layout options = .ok compositor)
    (htemplates : ∀ output ∈ outputs, output.template.Obtained)
    (hgains : GainCompensator.make modes inputs interpolation = .ok gains)
    (hmake : make compositor gains preview limits = .ok stitcher)
    (hcalls : ∀ call ∈ calls, ∀ frame ∈ call.frames, frame.WellFormed)
    (hcount : calls.length < 2 ^ 32) :
    (∀ cycle ∈ stitcher.cycles calls, Completes compositor cycle.outcome) ∧
      ∀ count ≤ calls.length, (stitcher.performAll (calls.take count)).Guarded := by
  obtain ⟨hready, hstart, hsame⟩ := ready_of_make hcompositor htemplates hgains hmake
  refine ⟨hsame ▸ hready.completes_cycles hcalls, fun count hle ↦ ?_⟩
  obtain ⟨hlast, hobserved⟩ :=
    hready.perform_all fun call hcall ↦ hcalls call (List.mem_of_mem_take hcall)
  rw [hstart, Nat.zero_add] at hobserved
  have htaken := List.length_take_le' count calls
  exact hlast.guarded (by omega)

/-- Two frame sets that suit the compositor of one source, one with two frames that does not, and
a padded frame to reuse. -/
def mixedCalls : List StitcherCall :=
  spotCalls ++ [.process [.grayRow 1 #[5], .grayRow 1 #[6]], .process [.grayRow 1 #[5]]]

/-- The first and the last frame set are composed, and the one in between is refused for the number
of its frames. All the while the stitcher is guarded. -/
theorem spot_never_faults :
    ((spot.cycles mixedCalls).map StitcherCycle.outcome
      = [.ok ⟨[.grayRow 4 #[14, 0, 0, 0]], some (.grayRow 2 #[6, 0])⟩,
        .error (.refused (.sizeMismatch (.frameCount 2 1))),
        .ok ⟨[.grayRow 4 #[10, 0, 0, 0, 0, 0]], some (.grayRow 2 #[4, 0])⟩]) ∧
      (∀ cycle ∈ spot.cycles mixedCalls, Completes .spot cycle.outcome) ∧
        ∀ count ≤ 4, (spot.performAll (mixedCalls.take count)).Guarded := by
  have htemplates : ∀ output ∈ Compositor.spot.outputs, output.template.Obtained := by
    intro output houtput
    rw [List.mem_singleton.mp houtput]
    exact Template.spot_obtained
  have hgains : GainCompensator.make [.fixed [2]] 1 .bilinear = .ok spot.gains := by
    decide +kernel
  have hmake : make .spot spot.gains spot.preview .standard = .ok spot := rfl
  have hcalls : ∀ call ∈ mixedCalls, ∀ frame ∈ call.frames, frame.WellFormed := by
    simp only [mixedCalls, spotCalls, List.cons_append, List.nil_append, List.forall_mem_cons,
      StitcherCall.frames, List.not_mem_nil, IsEmpty.forall_iff, implies_true, and_true]
    refine ⟨?_, ?_, ⟨?_, ?_⟩, ?_⟩ <;>
      exact Frame.gray_row_formed (by decide) (by decide) (by decide)
  obtain ⟨hcycles, hguarded⟩ :=
    never_faults Compositor.make_spot htemplates hgains hmake hcalls (by decide)
  exact ⟨by decide +kernel, hcycles, hguarded⟩

end Stitcher

end Panorama
