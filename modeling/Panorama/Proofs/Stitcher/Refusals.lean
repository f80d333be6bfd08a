import Panorama.Proofs.Gain.Shape
import Panorama.Proofs.Stitcher.Sequence

/-!
# How processing can be refused

Processing a frame set can be refused for its sizes, for a value, or for a lack of memory. It is
never refused as a call that is not allowed now: that kind of error is left to pipelines. The lemmas
about the parts of processing are about any set of allowed errors that has those of each part.
-/

namespace Panorama

variable {ε α β : Type}

/-- Every error that a computation can end with is an allowed one. -/
def FailsOnly (Allowed : ε → Prop) (result : Except ε α) : Prop :=
  ∀ error, result = .error error → Allowed error

/-- An error that is not about the state of a pipeline. -/
def Error.IsTimeless (error : Error) : Prop := error.kind ≠ .pipeline

/-- A broken precondition, or an error that is not about the state of a pipeline. -/
def Failure.IsTimeless : Failure → Prop
  | .refused error => error.IsTimeless
  | .fault => True

namespace FailsOnly

variable {Allowed : ε → Prop}

/-- A computation with a result fails with nothing. -/
theorem ok (value : α) : FailsOnly Allowed (.ok value) := nofun

/-- What may fail with some errors may fail with more. -/
theorem imp {Other : ε → Prop} {result : Except ε α} (h : FailsOnly Allowed result)
    (hother : ∀ failure, Allowed failure → Other failure) : FailsOnly Other result := by
  intro failure hfailure
  exact hother failure (h failure hfailure)

/-- A computation may fail with an allowed error. -/
theorem error {failure : ε} (h : Allowed failure) :
    FailsOnly Allowed (Except.error failure : Except ε α) := by
  rintro _ ⟨⟩
  exact h

/-- Two computations in a row fail as one of them does. -/
theorem bind {first : Except ε α} {next : α → Except ε β} (hfirst : FailsOnly Allowed first)
    (hnext : ∀ value, first = .ok value → FailsOnly Allowed (next value)) :
    FailsOnly Allowed (first >>= next) := by
  cases first with
  | error failure =>
      rintro _ ⟨⟩
      exact hfirst failure rfl
  | ok value =>
      exact hnext value rfl

/-- A computation for every item of a list fails as one of them does. -/
theorem mapM {action : α → Except ε β} (h : ∀ item, FailsOnly Allowed (action item))
    (items : List α) : FailsOnly Allowed (items.mapM action) := by
  induction items with
  | nil => exact ok []
  | cons item items ih =>
      rw [List.mapM_cons]
      exact (h item).bind fun _ _ ↦ ih.bind fun _ _ ↦ ok _

/-- A refusal without regard to preconditions stays one. -/
theorem of_result {Allowed : Failure → Prop} {result : Result α}
    (h : FailsOnly (fun error ↦ Allowed (.refused error)) result) :
    FailsOnly Allowed (Outcome.ofResult result) := by
  cases result with
  | ok value => exact ok value
  | error failure => exact error (h failure rfl)

/-- A computation with only preconditions is not refused. -/
theorem of_option {Allowed : Failure → Prop} (h : Allowed .fault) (value? : Option α) :
    FailsOnly Allowed (Outcome.ofOption value?) := by
  cases value? with
  | none => exact error h
  | some value => exact ok value

end FailsOnly

/-! ### Frames and buffers -/

/-- A size is refused as a value. -/
theorem PixelFormat.check_size_fails {Allowed : Error → Prop}
    (hinvalid : ∀ flaw, Allowed (.invalid flaw)) (format : PixelFormat) (size : Canvas) :
    FailsOnly Allowed (format.checkSize size) := by
  unfold checkSize
  split
  · exact .error (hinvalid _)
  · split
    · exact .error (hinvalid _)
    · exact .ok ()

section Buffers

variable {Allowed : Error → Prop} (hexhausted : ∀ exhaustion, Allowed (.exhausted exhaustion))

include hexhausted

/-- A product is refused for a lack of memory. -/
theorem PixelFormat.checked_product_fails (left right : Nat) :
    FailsOnly Allowed (checkedProduct left right) := by
  unfold checkedProduct
  split
  · exact .ok _
  · exact .error (hexhausted _)

/-- A fresh frame is refused for its size or for a lack of memory. -/
theorem Frame.blank_fails {format : PixelFormat} {size : Canvas}
    (hsize : FailsOnly Allowed (format.checkSize size)) :
    FailsOnly Allowed (blank format size) := by
  have hplane (index : Nat) : FailsOnly Allowed (tightPlane format size index) := by
    refine .bind (PixelFormat.checked_product_fails hexhausted _ _) fun stride _ ↦
      .bind (PixelFormat.checked_product_fails hexhausted _ _) fun bytes _ ↦ ?_
    split
    · exact .ok _
    · exact .error (hexhausted _)
  exact .bind (.bind hsize fun _ _ ↦ .mapM hplane _) fun _ _ ↦ .ok _

/-- Buffers are refused for their sizes or for a lack of memory. -/
theorem FramePool.borrow_all_fails (pool : FramePool) {format : PixelFormat} {sizes : List Canvas}
    (hsizes : ∀ size ∈ sizes, FailsOnly Allowed (format.checkSize size)) :
    FailsOnly Allowed (pool.borrowAll format sizes).1 := by
  induction sizes generalizing pool with
  | nil => exact .ok []
  | cons size sizes ih =>
      obtain ⟨hsize, hothers⟩ := List.forall_mem_cons.mp hsizes
      have hborrow : FailsOnly Allowed (pool.borrow format size) := by
        unfold borrow
        split
        · exact .ok _
        · exact .bind (Frame.blank_fails hexhausted hsize) fun _ _ ↦ .ok _
      unfold borrowAll
      split
      · rename_i error hrefused
        exact .error (hborrow error hrefused)
      · rename_i frame next hframe
        exact .bind (ih next hothers) fun _ _ ↦ .ok _

end Buffers

namespace Frame

/-- A crop is refused for the sizes of frame and crop. -/
theorem visible_columns_fails {Allowed : Error → Prop}
    (hmismatch : ∀ mismatch, Allowed (.sizeMismatch mismatch)) (frame : Frame)
    (crop : Option Crop) : FailsOnly Allowed (frame.visibleColumns crop) := by
  unfold visibleColumns
  split
  · exact .ok _
  · split
    · exact .error (hmismatch _)
    · split
      · exact .error (hmismatch _)
      · exact .ok _

/-- A view is refused for the sizes of frame and crop. -/
theorem view_fails (frame : Frame) (crop : Option Crop) :
    FailsOnly Failure.IsTimeless (frame.view crop) :=
  .bind (.of_result (frame.visible_columns_fails (fun _ ↦ nofun) crop)) fun _ _ ↦
    .bind (.of_option trivial _) fun _ _ ↦ .ok _

/-- A preview is refused for its size or for a lack of memory. -/
theorem preview_fails {Allowed : Failure → Prop}
    (hinvalid : ∀ flaw, Allowed (.refused (.invalid flaw)))
    (hexhausted : ∀ exhaustion, Allowed (.refused (.exhausted exhaustion)))
    (hfault : Allowed .fault) (frame : Frame) (size : Canvas) :
    FailsOnly Allowed (frame.preview size) := by
  have hsize : FailsOnly (fun error ↦ Allowed (.refused error)) (frame.format.checkSize size) :=
    PixelFormat.check_size_fails hinvalid _ _
  exact .bind hsize.of_result fun _ _ ↦
    .bind (blank_fails hexhausted hsize).of_result fun _ _ ↦
      .bind (.of_option hfault _) fun _ _ ↦ .ok _

end Frame

/-! ### Composition -/

namespace Compositor

/-- A frame set is refused for its formats and sizes, or as one of its views is. -/
theorem prepare_fails {Allowed : Failure → Prop}
    (hmismatch : ∀ mismatch, Allowed (.refused (.sizeMismatch mismatch)))
    (compositor : Compositor) {frames : List Frame}
    (hviews : ∀ frame ∈ frames, FailsOnly Allowed (frame.view compositor.crop)) :
    FailsOnly Allowed (compositor.prepare frames) := by
  have hfrom (items : List (Frame × Canvas)) (index : Nat)
      (hitems : ∀ item ∈ items, FailsOnly Allowed (item.1.view compositor.crop)) :
      FailsOnly Allowed (compositor.prepareFrom index items) := by
    induction items generalizing index with
    | nil => exact .ok []
    | cons item items ih =>
        obtain ⟨hitem, hothers⟩ := List.forall_mem_cons.mp hitems
        unfold prepareFrom
        split
        · exact .error (hmismatch _)
        · refine .bind hitem fun view _ ↦ ?_
          split
          · exact .error (hmismatch _)
          · exact .bind (ih _ hothers) fun _ _ ↦ .ok _
  unfold prepare
  split
  · exact .error (hmismatch _)
  · exact hfrom _ 0 fun item hitem ↦ hviews item.1 (List.of_mem_zip hitem).1

end Compositor

/-- Rendering is never refused. -/
theorem Compositor.render_fails (compositor : Compositor) (views : List FrameView)
    (gains : GainTable) (targets : List Frame) :
    FailsOnly (· = .fault) (compositor.render views gains targets) := by
  unfold render
  split
  · refine FailsOnly.of_option ?_ _
    rfl
  · exact .error rfl

/-- An update of the gains is refused for the number of frames or templates only. -/
theorem GainCompensator.update_fails {Allowed : Failure → Prop}
    (hmismatch : ∀ mismatch, Allowed (.refused (.sizeMismatch mismatch)))
    (hinvalid : ∀ flaw, Allowed (.refused (.invalid flaw))) (hfault : Allowed .fault)
    (gains : GainCompensator) (views : List FrameView) (templates : List Template) :
    FailsOnly Allowed (gains.update views templates).1 := by
  have hupdates := gains.updates views templates
  generalize gains.update views templates = result at hupdates ⊢
  cases hupdates with
  | miscounted _ => exact .error (hmismatch _)
  | misled _ => exact .error (hinvalid _)
  | complete _ _ _ _ => exact .ok ()
  | broken _ _ _ => exact .error hfault

namespace Stitcher

/-- Composing a frame set fails as taking buffers, rendering or making the preview does. -/
theorem compose_fails {Allowed : Failure → Prop} {stitcher : Stitcher} {views : List FrameView}
    (hborrow : FailsOnly (fun error ↦ Allowed (.refused error))
      (stitcher.pool.borrowAll stitcher.compositor.format stitcher.compositor.outputSizes).1)
    (hrender : ∀ targets, (stitcher.pool.borrowAll stitcher.compositor.format
        stitcher.compositor.outputSizes).1 = .ok targets →
      FailsOnly Allowed (stitcher.compositor.render views stitcher.gains.table targets) ∧
        ∀ outputs, stitcher.compositor.render views stitcher.gains.table targets = .ok outputs →
          FailsOnly Allowed (stitcher.previewOf outputs)) :
    FailsOnly Allowed (stitcher.compose views).1 := by
  unfold compose
  dsimp only
  split
  · rename_i error hrefused
    exact .error (hborrow error hrefused)
  · rename_i targets htargets
    obtain ⟨hrendered, hpreview⟩ := hrender targets htargets
    exact .bind hrendered fun outputs houtputs ↦ .bind (hpreview outputs houtputs) fun _ _ ↦ .ok _

/-- Composing a frame set is refused for a size that its format does not accept or for a lack of
memory, whatever the stitcher has been given back. -/
theorem compose_fails_late {Allowed : Failure → Prop}
    (hinvalid : ∀ flaw, Allowed (.refused (.invalid flaw)))
    (hexhausted : ∀ exhaustion, Allowed (.refused (.exhausted exhaustion)))
    (hfault : Allowed .fault) (stitcher : Stitcher) (views : List FrameView) :
    FailsOnly Allowed (stitcher.compose views).1 := by
  refine compose_fails (FramePool.borrow_all_fails hexhausted _ fun size _ ↦
    PixelFormat.check_size_fails hinvalid _ size) fun targets _ ↦ ⟨?_, fun outputs _ ↦ ?_⟩
  · refine (Compositor.render_fails _ views _ targets).imp ?_
    rintro _ rfl
    exact hfault
  · unfold previewOf
    split
    · exact .bind (Frame.preview_fails hinvalid hexhausted hfault _ _) fun _ _ ↦ .ok _
    · exact .ok none

/-- Processing a frame set fails as preparing it, updating the gains or composing does. -/
theorem process_fails {Allowed : Failure → Prop} {stitcher : Stitcher} {frames : List Frame}
    (hprepare : FailsOnly Allowed (stitcher.compositor.prepare frames))
    (hviews : ∀ views, stitcher.compositor.prepare frames = .ok views →
      FailsOnly Allowed (stitcher.gains.update views stitcher.compositor.templates).1 ∧
        ((stitcher.gains.update views stitcher.compositor.templates).1 = .ok () →
          FailsOnly Allowed ({ stitcher with gains := (stitcher.gains.update views
            stitcher.compositor.templates).2 }.compose views).1)) :
    FailsOnly Allowed (stitcher.process frames).1 := by
  unfold process
  split
  · rename_i failure hrefused
    exact .error (hprepare failure hrefused)
  · rename_i views hprepared
    obtain ⟨hupdate, hcompose⟩ := hviews views hprepared
    dsimp only
    split
    · rename_i failure hrefused
      exact .error (hupdate failure hrefused)
    · rename_i hupdated
      exact hcompose hupdated

/-- A stitcher never refuses a frame set as a call that is not allowed now. -/
theorem process_timeless (stitcher : Stitcher) (frames : List Frame) :
    FailsOnly Failure.IsTimeless (stitcher.process frames).1 := by
  refine process_fails (Compositor.prepare_fails (fun _ ↦ nofun) _ fun frame _ ↦ frame.view_fails _)
    fun views _ ↦ ⟨?_, fun _ ↦ ?_⟩
  · exact stitcher.gains.update_fails (fun _ ↦ nofun) (fun _ ↦ nofun) trivial views _
  · exact compose_fails_late (fun _ ↦ nofun) (fun _ ↦ nofun) trivial _ views

/-- No cycle of a stitcher is refused as a call that is not allowed now. -/
theorem cycles_fail {stitcher : Stitcher} {calls : List StitcherCall}
    {cycle : StitcherCycle} (h : cycle ∈ stitcher.cycles calls) :
    FailsOnly Failure.IsTimeless cycle.outcome := by
  induction calls generalizing stitcher with
  | nil => cases h
  | cons call calls ih =>
      cases call with
      | process frames =>
          rcases List.mem_cons.mp h with rfl | hlater
          · exact stitcher.process_timeless frames
          · exact ih hlater
      | recycle frames => exact ih h

end Stitcher

end Panorama
