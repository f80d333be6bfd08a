import Panorama.Compositor.Render
import Panorama.Proofs.Failing

/-!
# Composing in place

The targets of a composition are changed where they are, one after the other. What becomes of them
is told here beside the outcome, so that it has a meaning also where there is no result: nothing is
painted before the gains and the frame set have been checked. Read `composite_over_eq` first.
-/

namespace Panorama.Compositor

variable {compositor : Compositor} {frames targets : List Frame} {gains : GainTable}
  {views : List FrameView}

/-- Paint targets in place, the first of which is the produced frame at position `frame`. A broken
precondition ends it at its target, and the targets in front of that one stay painted. -/
def paintFrom (compositor : Compositor) (views : List FrameView) (gains : GainTable) (frame : Nat) :
    List (Canvas × Frame) → Outcome Unit × List Frame
  | [] => (.ok (), [])
  | (size, target) :: rest =>
    match compositor.renderFrame? views gains frame size target with
    | none => (.error .fault, target :: rest.map Prod.snd)
    | some painted =>
      let (outcome, others) := compositor.paintFrom views gains (frame + 1) rest
      (outcome, painted :: others)

/-- Paint all outputs into given frames in place. -/
def renderOver (compositor : Compositor) (views : List FrameView) (gains : GainTable)
    (targets : List Frame) : Outcome Unit × List Frame :=
  if targets.length = compositor.outputSizes.length ∧
      compositor.outputs.length ≤ gains.rows.length then
    compositor.paintFrom views gains 0 (compositor.outputSizes.zip targets)
  else (.error .fault, targets)

/-- Compose a frame set into given frames in place. -/
def compositeOver (compositor : Compositor) (frames : List Frame) (gains : GainTable)
    (targets : List Frame) : Outcome Unit × List Frame :=
  match compositor.checkGains gains with
  | .error error => (.error (.refused error), targets)
  | .ok () =>
    match compositor.prepare frames with
    | .error failure => (.error failure, targets)
    | .ok views => compositor.renderOver views gains targets

/-- What has been painted in place are the painted frames, if there was no broken precondition. -/
theorem paint_from_eq (views : List FrameView) (gains : GainTable) (frame : Nat)
    (items : List (Canvas × Frame)) :
    (Outcome.ofOption <| (items.zipIdx frame).mapM fun ((size, target), frame) ↦
        compositor.renderFrame? views gains frame size target)
      = (compositor.paintFrom views gains frame items).1.map fun () ↦
        (compositor.paintFrom views gains frame items).2 := by
  induction items generalizing frame with
  | nil => rfl
  | cons item items ih =>
      obtain ⟨size, target⟩ := item
      have hothers := ih (frame + 1)
      rw [List.zipIdx_cons, List.mapM_cons, paintFrom]
      dsimp only
      cases compositor.renderFrame? views gains frame size target with
      | none => rfl
      | some painted =>
          revert hothers
          rcases compositor.paintFrom views gains (frame + 1) items with ⟨_ | _, others⟩ <;>
            cases (items.zipIdx (frame + 1)).mapM fun ((size, target), frame) ↦
              compositor.renderFrame? views gains frame size target <;>
            simp [Outcome.ofOption, Except.map]

/-- Composing in place leaves the composed frames in the targets, and fails as composing does. -/
theorem composite_over_eq (compositor : Compositor) (frames : List Frame) (gains : GainTable)
    (targets : List Frame) : compositor.compositeInto frames gains targets
      = (compositor.compositeOver frames gains targets).1.map fun () ↦
        (compositor.compositeOver frames gains targets).2 := by
  unfold compositeInto compositeOver
  cases compositor.checkGains gains with
  | error error => rfl
  | ok _ =>
      cases compositor.prepare frames with
      | error failure => rfl
      | ok views =>
          show compositor.render views gains targets = _
          unfold render renderOver
          split
          · exact paint_from_eq views gains 0 _
          · rfl

/-- Painting in place is not refused. -/
theorem paint_from_not_refused (frame : Nat) (items : List (Canvas × Frame)) (error : Error) :
    (compositor.paintFrom views gains frame items).1 ≠ .error (.refused error) := by
  induction items generalizing frame with
  | nil => exact nofun
  | cons item items ih =>
      rw [paintFrom]
      split
      · exact nofun
      · exact ih (frame + 1)

/-- A refused composition leaves all targets as they are. -/
theorem composite_over_refused {error : Error}
    (h : (compositor.compositeOver frames gains targets).1 = .error (.refused error)) :
    (compositor.compositeOver frames gains targets).2 = targets := by
  unfold compositeOver at h ⊢
  split
  · rfl
  · rename_i hgains
    rw [hgains] at h
    dsimp only at h
    split
    · rfl
    · rename_i views hviews
      rw [hviews] at h
      dsimp only [renderOver] at h
      split at h
      · exact absurd h (paint_from_not_refused _ _ _)
      · cases h

end Panorama.Compositor
